import GT3Code.Base.TopRanks
import GT3Code.Shared.Keybindings

/-! # Ranking search results

How well a value matches a query, and a list of the best results that is kept sorted by a
binary search for the place of each new one.
-/

namespace GT3Code.Shared

open GT3Code.Base GT3Code.Base.Json GT3Code.Contracts

universe u

structure RankedSearchResult (T : Type u) where
  item : T
  score : ℚ
  tieBreaker : Text

/-- `String.prototype.localeCompare` on texts, a total preorder. -/
class TextCollation where
  localeCompare : Text → Text → Int
  localeCompare_lt_iff : ∀ left right, localeCompare left right < 0 ↔ 0 < localeCompare right left
  localeCompare_trans : ∀ first second third, localeCompare first second ≤ 0 →
    localeCompare second third ≤ 0 → localeCompare first third ≤ 0

def normalizeSearchQuery [CaseMapping] (input : Text) (trimLeading : Option (CodeUnit → Bool)) :
    Text :=
  let trimmed := trimText input
  if trimmed = [] then []
  else
    match trimLeading with
    | some pattern => CaseMapping.toLowerCase (trimmed.dropWhile pattern)
    | none => CaseMapping.toLowerCase trimmed

/-! ## Scores -/

/-- The variables of the loop in `scoreSubsequenceMatch`. -/
structure SubsequenceScan where
  firstMatchIndex : Int
  previousMatchIndex : Int
  gapPenalty : Int

def SubsequenceScan.matched (valueIndex : Int) (scan : SubsequenceScan) : SubsequenceScan where
  firstMatchIndex := if scan.firstMatchIndex = -1 then valueIndex else scan.firstMatchIndex
  previousMatchIndex := valueIndex
  gapPenalty :=
    if scan.previousMatchIndex ≠ -1 then
      scan.gapPenalty + (valueIndex - scan.previousMatchIndex - 1)
    else scan.gapPenalty

def scanSubsequence (valueLength queryLength : Int) :
    Text → Text → Int → SubsequenceScan → Option ℚ
  | u :: value, v :: query, valueIndex, scan =>
    if u = v then
      let scan := scan.matched valueIndex
      if query = [] then
        let spanPenalty := valueIndex - scan.firstMatchIndex + 1 - queryLength
        let lengthPenalty := min 64 (valueLength - queryLength)
        let score :=
          scan.firstMatchIndex * 2 + scan.gapPenalty * 3 + spanPenalty + lengthPenalty
        some score
      else scanSubsequence valueLength queryLength value query (valueIndex + 1) scan
    else scanSubsequence valueLength queryLength value (v :: query) (valueIndex + 1) scan
  | _, _, _, _ => none

def scoreSubsequenceMatch (value query : Text) : Option ℚ :=
  if query = [] then some 0
  else scanSubsequence value.length query.length value query 0 ⟨-1, -1, 0⟩

def lengthPenalty (value query : Text) : ℚ := min 64 (value.length - query.length : Nat)

/-- `value.indexOf(search)` -/
def indexOf (search : Text) : Text → Option Nat
  | [] => if search = [] then some 0 else none
  | u :: value =>
    if search <+: u :: value then some 0 else (indexOf search value).map (· + 1)

/-- One marker of the loop in `findBoundaryMatchIndex`. -/
def closerBoundary (value query : Text) (bestIndex : Option Nat) (marker : Text) : Option Nat :=
  match indexOf (marker ++ query) value with
  | none => bestIndex
  | some index =>
    let matchIndex := index + marker.length
    match bestIndex with
    | none => some matchIndex
    | some best => if matchIndex < best then some matchIndex else some best

def findBoundaryMatchIndex (value query : Text) (boundaryMarkers : List Text) : Option Nat :=
  boundaryMarkers.foldl (closerBoundary value query) none

structure ScoreQueryInput where
  value : Text
  query : Text
  exactBase : ℚ
  prefixBase : Option ℚ
  boundaryBase : Option ℚ
  includesBase : Option ℚ
  fuzzyBase : Option ℚ
  boundaryMarkers : Option (List Text)

/-- The tiers of `scoreQueryMatch` in their order; each has no score where its base is missing. -/
def scoreTiers (input : ScoreQueryInput) : List (Option ℚ) :=
  let value := input.value
  let query := input.query
  [if value = query then some input.exactBase else none,
    input.prefixBase.bind (fun base =>
      if query <+: value then some (base + lengthPenalty value query) else none),
    input.boundaryBase.bind (fun base =>
      (findBoundaryMatchIndex value query
        (input.boundaryMarkers.getD [ascii " ", ascii "-", ascii "_", ascii "/"])).map
        (fun boundaryIndex : Nat => base + (boundaryIndex : ℚ) * 2 + lengthPenalty value query)),
    input.includesBase.bind (fun base =>
      (indexOf query value).map
        (fun includesIndex : Nat => base + (includesIndex : ℚ) * 2 + lengthPenalty value query)),
    input.fuzzyBase.bind (fun base => (scoreSubsequenceMatch value query).map (base + ·))]

def scoreQueryMatch (input : ScoreQueryInput) : Option ℚ :=
  if input.value = [] ∨ input.query = [] then none
  else (scoreTiers input).findSome? id

variable {query value : Text}

theorem isSome_scanSubsequence_iff (valueLength queryLength : Int) (hquery : query ≠ [])
    (value : Text) (valueIndex : Int) (scan : SubsequenceScan) :
    (scanSubsequence valueLength queryLength value query valueIndex scan).isSome ↔
      query.Sublist value := by
  induction value generalizing query valueIndex scan with
  | nil =>
    cases query with
    | nil => exact absurd rfl hquery
    | cons v query => simp [scanSubsequence]
  | cons u value ih =>
    cases query with
    | nil => exact absurd rfl hquery
    | cons v query =>
      rw [scanSubsequence]
      dsimp only
      split_ifs with heq hlast
      · rw [heq, hlast, List.cons_sublist_cons]
        exact iff_of_true rfl (List.nil_sublist _)
      · rw [heq, List.cons_sublist_cons]
        exact ih hlast _ _
      · rw [ih (List.cons_ne_nil v query), List.cons_sublist_cons']
        simp [Ne.symm heq]

theorem isSome_scoreSubsequenceMatch_iff (value query : Text) :
    (scoreSubsequenceMatch value query).isSome ↔ query.Sublist value := by
  rw [scoreSubsequenceMatch]
  split_ifs with hquery
  · simp [hquery]
  · exact isSome_scanSubsequence_iff _ _ hquery _ _ _

theorem isInfix_of_indexOf {search : Text} (h : (indexOf search value).isSome) :
    search <:+: value := by
  induction value with
  | nil =>
    rw [indexOf] at h
    split_ifs at h with hempty
    · exact hempty ▸ List.infix_rfl
    · cases h
  | cons u value ih =>
    rw [indexOf] at h
    split_ifs at h with hprefix
    · exact hprefix.isInfix
    · exact List.infix_cons (ih (by simpa using h))

theorem sublist_of_closerBoundary {marker : Text} {bestIndex : Option Nat}
    (hbest : bestIndex.isSome → query.Sublist value)
    (h : (closerBoundary value query bestIndex marker).isSome) : query.Sublist value := by
  rw [closerBoundary] at h
  cases hindex : indexOf (marker ++ query) value with
  | none =>
    rw [hindex] at h
    exact hbest h
  | some index =>
    have hinfix := isInfix_of_indexOf (Option.isSome_iff_exists.mpr ⟨index, hindex⟩)
    exact (List.sublist_append_right marker query).trans hinfix.sublist

theorem sublist_of_findBoundaryMatchIndex {boundaryMarkers : List Text}
    (h : (findBoundaryMatchIndex value query boundaryMarkers).isSome) : query.Sublist value := by
  have hfold : ∀ bestIndex : Option Nat, (bestIndex.isSome → query.Sublist value) →
      (boundaryMarkers.foldl (closerBoundary value query) bestIndex).isSome →
      query.Sublist value := by
    clear h
    induction boundaryMarkers with
    | nil => exact fun _ hbest => hbest
    | cons marker boundaryMarkers ih =>
      exact fun bestIndex hbest => ih _ (sublist_of_closerBoundary hbest)
  exact hfold none (by simp) h

theorem exists_of_isSome_bind {α β : Type} {value : Option α} {f : α → Option β}
    (h : (value.bind f).isSome) : ∃ a, (f a).isSome := by
  cases value with
  | none => cases h
  | some a => exact ⟨a, h⟩

variable {input : ScoreQueryInput}

theorem sublist_of_scoreQueryMatch (h : (scoreQueryMatch input).isSome) :
    input.query.Sublist input.value := by
  rw [scoreQueryMatch] at h
  split_ifs at h with hempty
  · cases h
  · rw [List.findSome?_isSome_iff] at h
    obtain ⟨tier, htier, hsome⟩ := h
    simp only [scoreTiers, List.mem_cons, List.not_mem_nil, or_false] at htier
    obtain rfl | rfl | rfl | rfl | rfl := htier
    · split_ifs at hsome with heq
      · rw [heq]
      · cases hsome
    · obtain ⟨base, hprefix⟩ := exists_of_isSome_bind hsome
      split_ifs at hprefix with hstarts
      · exact hstarts.sublist
      · cases hprefix
    · obtain ⟨base, hboundary⟩ := exists_of_isSome_bind hsome
      rw [Option.isSome_map] at hboundary
      exact sublist_of_findBoundaryMatchIndex hboundary
    · obtain ⟨base, hincludes⟩ := exists_of_isSome_bind hsome
      rw [Option.isSome_map] at hincludes
      exact (isInfix_of_indexOf hincludes).sublist
    · obtain ⟨base, hfuzzy⟩ := exists_of_isSome_bind hsome
      rw [Option.isSome_map] at hfuzzy
      exact (isSome_scoreSubsequenceMatch_iff _ _).mp hfuzzy

theorem isSome_scoreQueryMatch (hvalue : input.value ≠ []) (hquery : input.query ≠ [])
    (hfuzzy : input.fuzzyBase.isSome) (h : input.query.Sublist input.value) :
    (scoreQueryMatch input).isSome := by
  obtain ⟨base, hbase⟩ := Option.isSome_iff_exists.mp hfuzzy
  rw [scoreQueryMatch, if_neg (by simp [hvalue, hquery]), List.findSome?_isSome_iff]
  refine ⟨input.fuzzyBase.bind (fun base =>
    (scoreSubsequenceMatch input.value input.query).map (base + ·)), by simp [scoreTiers], ?_⟩
  rw [hbase, Option.bind_some, id, Option.isSome_map]
  exact (isSome_scoreSubsequenceMatch_iff _ _).mpr h

section Ranking

variable [TextCollation] {T : Type u}

def compareRankedSearchResults (left right : RankedSearchResult T) : ℚ :=
  let scoreDelta := left.score - right.score
  if scoreDelta ≠ 0 then scoreDelta
  else TextCollation.localeCompare left.tieBreaker right.tieBreaker

/-- The loop of `findInsertionIndex`. -/
def narrow (rankedEntries : List (RankedSearchResult T)) (candidate : RankedSearchResult T)
    (low high : Nat) : Nat :=
  if low < high then
    let middle := low + (high - low) / 2
    match rankedEntries[middle]? with
    | none => low
    | some current =>
      if compareRankedSearchResults candidate current < 0 then
        narrow rankedEntries candidate low middle
      else narrow rankedEntries candidate (middle + 1) high
  else low
termination_by high - low

def findInsertionIndex (rankedEntries : List (RankedSearchResult T))
    (candidate : RankedSearchResult T) : Nat :=
  narrow rankedEntries candidate 0 rankedEntries.length

def insertRankedSearchResult (rankedEntries : List (RankedSearchResult T))
    (candidate : RankedSearchResult T) (limit : Int) : List (RankedSearchResult T) :=
  if limit ≤ 0 then rankedEntries
  else
    let insertionIndex := findInsertionIndex rankedEntries candidate
    let spliced :=
      rankedEntries.take insertionIndex ++ candidate :: rankedEntries.drop insertionIndex
    if rankedEntries.length < limit then spliced
    else if insertionIndex ≥ limit then rankedEntries
    else spliced.dropLast

/-- `left` comes no later than `right`. -/
def NoLater (left right : RankedSearchResult T) : Prop := compareRankedSearchResults left right ≤ 0

instance : DecidableRel (NoLater (T := T)) :=
  fun left right => inferInstanceAs (Decidable (compareRankedSearchResults left right ≤ 0))

/-- `toSorted(compareRankedSearchResults)` -/
def rankAll (candidates : List (RankedSearchResult T)) : List (RankedSearchResult T) :=
  candidates.insertionSort NoLater

theorem compareRankedSearchResults_lt_iff (left right : RankedSearchResult T) :
    compareRankedSearchResults left right < 0 ↔ left.score < right.score ∨
      left.score = right.score ∧
        TextCollation.localeCompare left.tieBreaker right.tieBreaker < 0 := by
  rw [compareRankedSearchResults]
  by_cases hscore : left.score = right.score
  · simp [hscore]
  · have hdelta : left.score - right.score ≠ 0 := sub_ne_zero.mpr hscore
    simp [hdelta, hscore]

theorem noLater_iff (left right : RankedSearchResult T) :
    NoLater left right ↔ left.score < right.score ∨ left.score = right.score ∧
      TextCollation.localeCompare left.tieBreaker right.tieBreaker ≤ 0 := by
  rw [NoLater, compareRankedSearchResults]
  by_cases hscore : left.score = right.score
  · simp [hscore]
  · have hdelta : left.score - right.score ≠ 0 := sub_ne_zero.mpr hscore
    simp only [hdelta, hscore, ne_eq, not_false_eq_true, if_true, false_and, or_false, sub_nonpos]
    exact ⟨fun hle => lt_of_le_of_ne hle hscore, le_of_lt⟩

theorem compareRankedSearchResults_lt_iff_not (left right : RankedSearchResult T) :
    compareRankedSearchResults left right < 0 ↔ ¬NoLater right left := by
  rw [compareRankedSearchResults_lt_iff, noLater_iff, TextCollation.localeCompare_lt_iff,
    not_or, not_and, not_lt, not_le]
  constructor
  · rintro (hlt | ⟨heq, hlocale⟩)
    · exact ⟨hlt.le, fun heq => absurd heq hlt.ne'⟩
    · exact ⟨heq.le, fun _ => hlocale⟩
  · rintro ⟨hle, hlocale⟩
    obtain hlt | heq := lt_or_eq_of_le hle
    · exact Or.inl hlt
    · exact Or.inr ⟨heq, hlocale heq.symm⟩

instance : Std.Total (NoLater (T := T)) where
  total left right := by
    by_contra hneither
    rw [not_or, ← compareRankedSearchResults_lt_iff_not] at hneither
    exact hneither.2 hneither.1.le

instance : IsTrans (RankedSearchResult T) NoLater where
  trans first second third hfirst hsecond := by
    rw [noLater_iff] at hfirst hsecond ⊢
    obtain hlt | ⟨heq, hle⟩ := hfirst <;> obtain hlt' | ⟨heq', hle'⟩ := hsecond
    · exact Or.inl (hlt.trans hlt')
    · exact Or.inl (heq' ▸ hlt)
    · exact Or.inl (heq ▸ hlt')
    · exact Or.inr ⟨heq.trans heq', TextCollation.localeCompare_trans _ _ _ hle hle'⟩

variable {rankedEntries : List (RankedSearchResult T)} {candidate : RankedSearchResult T}

theorem precedes_of_noLater {current entry : RankedSearchResult T}
    (h : compareRankedSearchResults candidate current < 0) (hle : NoLater current entry) :
    compareRankedSearchResults candidate entry < 0 := by
  rw [compareRankedSearchResults_lt_iff_not] at h ⊢
  exact fun hentry => h (IsTrans.trans _ _ _ hle hentry)

omit [TextCollation] in
theorem drop_eq_cons {index : Nat} {current : RankedSearchResult T}
    (h : rankedEntries[index]? = some current) :
    rankedEntries.drop index = current :: rankedEntries.drop (index + 1) := by
  obtain ⟨hlength, hcurrent⟩ := List.getElem?_eq_some_iff.mp h
  rw [List.drop_eq_getElem_cons hlength, hcurrent]

theorem narrow_spec (candidate : RankedSearchResult T) {low high : Nat}
    (hsorted : rankedEntries.Pairwise NoLater)
    (hlow : low ≤ high) (hhigh : high ≤ rankedEntries.length)
    (hbefore : ∀ entry ∈ rankedEntries.take low,
      ¬compareRankedSearchResults candidate entry < 0)
    (hafter : ∀ entry ∈ rankedEntries.drop high,
      compareRankedSearchResults candidate entry < 0) :
    narrow rankedEntries candidate low high ≤ rankedEntries.length ∧
      (∀ entry ∈ rankedEntries.take (narrow rankedEntries candidate low high),
        ¬compareRankedSearchResults candidate entry < 0) ∧
      ∀ entry ∈ rankedEntries.drop (narrow rankedEntries candidate low high),
        compareRankedSearchResults candidate entry < 0 := by
  fun_induction narrow rankedEntries candidate low high with
  | case1 low high hlt middle hnone =>
    rw [List.getElem?_eq_none_iff] at hnone
    omega
  | case2 low high hlt middle current hcurrent hprecedes ih =>
    refine ih (by omega) (by omega) hbefore (fun entry hentry => ?_)
    rw [drop_eq_cons hcurrent] at hentry
    obtain rfl | hlater := List.mem_cons.mp hentry
    · exact hprecedes
    · have hin : current ∈ rankedEntries.take (middle + 1) := by
        rw [List.take_add_one, hcurrent]
        simp
      exact precedes_of_noLater hprecedes (hsorted.rel_of_mem_take_of_mem_drop hin hlater)
  | case3 low high hlt middle current hcurrent hprecedes ih =>
    refine ih (by omega) hhigh (fun entry hentry => ?_) hafter
    rw [List.take_add_one, hcurrent, Option.toList_some, List.mem_append,
      List.mem_singleton] at hentry
    obtain hearlier | rfl := hentry
    · have hin : current ∈ rankedEntries.drop middle := by
        rw [drop_eq_cons hcurrent]
        exact List.mem_cons_self
      have hle := hsorted.rel_of_mem_take_of_mem_drop hearlier hin
      exact fun hprecedesEntry => hprecedes (precedes_of_noLater hprecedesEntry hle)
    · exact hprecedes
  | case4 low high hge =>
    have heq : low = high := by omega
    subst heq
    exact ⟨hhigh, hbefore, hafter⟩

theorem spliced_eq_insertAfter (candidate : RankedSearchResult T)
    (hsorted : rankedEntries.Pairwise NoLater) :
    findInsertionIndex rankedEntries candidate ≤ rankedEntries.length ∧
      rankedEntries.take (findInsertionIndex rankedEntries candidate) ++
          candidate :: rankedEntries.drop (findInsertionIndex rankedEntries candidate) =
        insertAfter NoLater candidate rankedEntries := by
  obtain ⟨hlength, hbefore, hafter⟩ := narrow_spec candidate hsorted (Nat.zero_le _)
    le_rfl (by simp) (by simp)
  refine ⟨hlength, (orderedInsert_eq_of_split _ (fun entry hentry hprecedes => ?_)
    (fun entry hentry => ?_)).symm⟩
  · exact hbefore entry hentry ((compareRankedSearchResults_lt_iff_not _ _).mpr hprecedes)
  · exact (compareRankedSearchResults_lt_iff_not _ _).mp
      (hafter entry (List.mem_of_mem_head? hentry))

theorem insertRankedSearchResult_eq {limit : Int} (candidate : RankedSearchResult T)
    (hsorted : rankedEntries.Pairwise NoLater) (hlength : rankedEntries.length ≤ limit.toNat) :
    insertRankedSearchResult rankedEntries candidate limit =
      (insertAfter NoLater candidate rankedEntries).take limit.toNat := by
  obtain ⟨hindex, hspliced⟩ := spliced_eq_insertAfter candidate hsorted
  have hcount : (insertAfter NoLater candidate rankedEntries).length =
      rankedEntries.length + 1 := List.orderedInsert_length _ _ _
  rw [insertRankedSearchResult]
  dsimp only
  rw [hspliced]
  split_ifs with hlimit hroom hlate
  · have hnone : rankedEntries = [] := by
      rw [← List.length_eq_zero_iff]
      omega
    rw [hnone, Int.toNat_of_nonpos hlimit, List.take_zero]
  · rw [List.take_of_length_le (by omega)]
  · have hall : findInsertionIndex rankedEntries candidate = rankedEntries.length := by omega
    rw [hall, List.take_length, List.drop_length] at hspliced
    rw [← hspliced, List.take_append_of_le_length (by omega), List.take_of_length_le hlength]
  · have hkept : (insertAfter NoLater candidate rankedEntries).length - 1 = limit.toNat := by
      omega
    rw [List.dropLast_eq_take, hkept]

theorem foldl_insertRankedSearchResult (candidates : List (RankedSearchResult T)) (limit : Int) :
    candidates.foldl (fun ranked candidate => insertRankedSearchResult ranked candidate limit) [] =
      (rankAll candidates).take limit.toNat :=
  foldl_eq_take_insertionSort NoLater
    (fun _ candidate hsorted hlength => insertRankedSearchResult_eq candidate hsorted hlength)
    candidates

end Ranking

end GT3Code.Shared
