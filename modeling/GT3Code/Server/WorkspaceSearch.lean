import GT3Code.Shared.SearchRanking

/-! # Searching the entries of a workspace

An entry is scored by its name and by its path, and the best entries are kept while the index is
gone through once.
-/

namespace GT3Code.Server

open GT3Code.Base GT3Code.Base.Json GT3Code.Contracts GT3Code.Shared

universe u

inductive ProjectEntryKind where
  | file
  | directory
  deriving DecidableEq

structure ProjectEntry where
  path : Text
  kind : ProjectEntryKind
  parentPath : Option Text

section CaseMapping

variable [CaseMapping]

/-- What follows the last `/`. -/
def basenameOf (input : Text) : Text :=
  (input.reverse.takeWhile (fun u => u ≠ 47)).reverse

structure SearchableWorkspaceEntry extends ProjectEntry where
  normalizedPath : Text
  normalizedName : Text
  normalizedPath_eq : normalizedPath = CaseMapping.toLowerCase path
  normalizedName_eq : normalizedName = basenameOf normalizedPath

def toSearchableWorkspaceEntry (entry : ProjectEntry) : SearchableWorkspaceEntry where
  toProjectEntry := entry
  normalizedPath := CaseMapping.toLowerCase entry.path
  normalizedName := basenameOf (CaseMapping.toLowerCase entry.path)
  normalizedPath_eq := rfl
  normalizedName_eq := rfl

structure WorkspaceIndex where
  entries : List SearchableWorkspaceEntry
  truncated : Bool

def nameScoreInput (entry : SearchableWorkspaceEntry) (query : Text) : ScoreQueryInput where
  value := entry.normalizedName
  query := query
  exactBase := 0
  prefixBase := some 2
  boundaryBase := none
  includesBase := some 5
  fuzzyBase := some 100
  boundaryMarkers := none

def pathScoreInput (entry : SearchableWorkspaceEntry) (query : Text) : ScoreQueryInput where
  value := entry.normalizedPath
  query := query
  exactBase := 1
  prefixBase := some 3
  boundaryBase := some 4
  includesBase := some 6
  fuzzyBase := some 200
  boundaryMarkers := some [ascii "/"]

def scoreEntry (entry : SearchableWorkspaceEntry) (query : Text) : Option ℚ :=
  if query = [] then some (if entry.kind = .directory then 0 else 1)
  else
    match scoreQueryMatch (nameScoreInput entry query),
      scoreQueryMatch (pathScoreInput entry query) with
    | none, none => none
    | some score, none => some score
    | none, some score => some score
    | some nameScore, some pathScore => some (min nameScore pathScore)

structure SearchState where
  rankedEntries : List (RankedSearchResult SearchableWorkspaceEntry)
  matchedEntryCount : Nat

structure ProjectSearchEntriesResult where
  entries : List SearchableWorkspaceEntry
  truncated : Bool

/-- `/^[@./]+/` -/
def isQueryLead (u : CodeUnit) : Bool := u = 64 || u = 46 || u = 47

section

variable [TextCollation]

/-- One entry of the loop in `search`. -/
def considerEntry (query : Text) (limit : Int) (state : SearchState)
    (entry : SearchableWorkspaceEntry) : SearchState :=
  match scoreEntry entry query with
  | none => state
  | some score =>
    { matchedEntryCount := state.matchedEntryCount + 1
      rankedEntries :=
        insertRankedSearchResult state.rankedEntries ⟨entry, score, entry.path⟩ limit }

def search (index : WorkspaceIndex) (query : Text) (limit : Int) : ProjectSearchEntriesResult :=
  let normalizedQuery := normalizeSearchQuery query (some isQueryLead)
  let limit := max 0 limit
  let state := index.entries.foldl (considerEntry normalizedQuery limit) ⟨[], 0⟩
  { entries := state.rankedEntries.map RankedSearchResult.item
    truncated := index.truncated || state.matchedEntryCount > limit }

end

omit [CaseMapping] in
theorem basenameOf_isSuffix (input : Text) : basenameOf input <:+ input := by
  have hprefix := List.takeWhile_prefix (l := input.reverse) (fun u : CodeUnit => decide (u ≠ 47))
  simpa [basenameOf] using List.reverse_suffix.mpr hprefix

theorem isSome_scoreEntry_iff (entry : SearchableWorkspaceEntry) {query : Text}
    (hquery : query ≠ []) : (scoreEntry entry query).isSome ↔
      query.Sublist (CaseMapping.toLowerCase entry.path) := by
  have hname : (scoreQueryMatch (nameScoreInput entry query)).isSome →
      query.Sublist entry.normalizedPath := by
    intro hsome
    have hsub : query.Sublist entry.normalizedName := sublist_of_scoreQueryMatch hsome
    rw [entry.normalizedName_eq] at hsub
    exact hsub.trans (basenameOf_isSuffix _).sublist
  have hpath : (scoreQueryMatch (pathScoreInput entry query)).isSome ↔
      query.Sublist entry.normalizedPath := by
    constructor
    · exact fun hsome => sublist_of_scoreQueryMatch hsome
    · intro hsub
      refine isSome_scoreQueryMatch ?_ hquery rfl hsub
      intro hempty
      exact hquery (List.sublist_nil.mp (hempty ▸ hsub))
  have heither : (scoreEntry entry query).isSome ↔
      (scoreQueryMatch (nameScoreInput entry query)).isSome ∨
        (scoreQueryMatch (pathScoreInput entry query)).isSome := by
    rw [scoreEntry, if_neg hquery]
    cases scoreQueryMatch (nameScoreInput entry query) <;>
      cases scoreQueryMatch (pathScoreInput entry query) <;> simp
  rw [heither, hpath, or_iff_right_of_imp hname, entry.normalizedPath_eq]

def candidate (query : Text) (entry : SearchableWorkspaceEntry) :
    Option (RankedSearchResult SearchableWorkspaceEntry) :=
  (scoreEntry entry query).map (fun score => ⟨entry, score, entry.path⟩)

section

variable [TextCollation]

theorem foldl_considerEntry (query : Text) (limit : Int) (entries : List SearchableWorkspaceEntry)
    (state : SearchState) :
    entries.foldl (considerEntry query limit) state =
      { rankedEntries := (entries.filterMap (candidate query)).foldl
          (fun ranked candidate => insertRankedSearchResult ranked candidate limit)
          state.rankedEntries
        matchedEntryCount :=
          state.matchedEntryCount + (entries.filterMap (candidate query)).length } := by
  induction entries generalizing state with
  | nil => rfl
  | cons entry entries ih =>
    rw [List.foldl_cons, ih]
    cases hscore : scoreEntry entry query with
    | none =>
      have hnone : candidate query entry = none := by rw [candidate, hscore]; rfl
      rw [List.filterMap_cons_none hnone, considerEntry, hscore]
    | some score =>
      have hsome : candidate query entry = some ⟨entry, score, entry.path⟩ := by
        rw [candidate, hscore]
        rfl
      rw [List.filterMap_cons_some hsome, considerEntry, hscore, List.foldl_cons,
        List.length_cons]
      dsimp only
      rw [Nat.add_assoc, Nat.add_comm 1]

def matchingEntries (index : WorkspaceIndex) (query : Text) : List SearchableWorkspaceEntry :=
  index.entries.filter (fun entry => query.Sublist (CaseMapping.toLowerCase entry.path))

/-- The search is a ranking of everything that matches, cut at the limit. -/
structure SearchesFully (index : WorkspaceIndex) (query : Text) (limit : Int) : Prop where
  considered : ∀ entry ∈ index.entries,
    (scoreEntry entry (normalizeSearchQuery query (some isQueryLead))).isSome ↔
      (normalizeSearchQuery query (some isQueryLead)).Sublist
        (CaseMapping.toLowerCase entry.path)
  entries : (search index query limit).entries =
    ((rankAll (index.entries.filterMap
      (candidate (normalizeSearchQuery query (some isQueryLead))))).take limit.toNat).map
        RankedSearchResult.item
  truncated : (search index query limit).truncated = (index.truncated ||
    decide ((matchingEntries index (normalizeSearchQuery query (some isQueryLead))).length >
      max 0 limit))

omit [TextCollation] in
theorem length_filterMap_candidate (index : WorkspaceIndex) {query : Text} (hquery : query ≠ []) :
    (index.entries.filterMap (candidate query)).length = (matchingEntries index query).length := by
  rw [matchingEntries, List.length_filterMap_eq_countP, List.countP_eq_length_filter]
  congr 2
  funext entry
  have hmatch := isSome_scoreEntry_iff entry hquery
  rw [candidate, Option.isSome_map, Bool.eq_iff_iff, decide_eq_true_iff]
  exact hmatch

theorem searchesFully (index : WorkspaceIndex) {query : Text}
    (hquery : normalizeSearchQuery query (some isQueryLead) ≠ []) (limit : Int) :
    SearchesFully index query limit := by
  have hlimit : (max 0 limit).toNat = limit.toNat := by omega
  constructor
  · exact fun entry _ => isSome_scoreEntry_iff entry hquery
  · rw [search]
    dsimp only
    rw [foldl_considerEntry, foldl_insertRankedSearchResult, hlimit]
  · rw [search]
    dsimp only
    rw [foldl_considerEntry, length_filterMap_candidate index hquery, Nat.zero_add]

/-- Ranking with a limit gives the first of the full ranking, and the search considers exactly
the entries that have the query as a subsequence. -/
theorem topRanked_of_fullRanking {T : Type u} (candidates : List (RankedSearchResult T))
    (limit : Int) (index : WorkspaceIndex) (query : Text) :
    candidates.foldl (fun ranked candidate => insertRankedSearchResult ranked candidate limit) [] =
        (rankAll candidates).take limit.toNat ∧
      (normalizeSearchQuery query (some isQueryLead) ≠ [] → SearchesFully index query limit) :=
  ⟨foldl_insertRankedSearchResult candidates limit,
    fun hquery => searchesFully index hquery limit⟩

end

end CaseMapping

@[reducible] def unitCollation : TextCollation where
  localeCompare left right := if left < right then -1 else if left = right then 0 else 1
  localeCompare_lt_iff left right := by
    obtain hlt | heq | hgt := lt_trichotomy left right
    · simp [hlt, hlt.not_gt, hlt.ne']
    · simp [heq]
    · simp [hgt, hgt.not_gt, hgt.ne']
  localeCompare_trans first second third := by
    have hle : ∀ left right : Text,
        (if left < right then (-1 : Int) else if left = right then 0 else 1) ≤ 0 ↔
          left ≤ right := by
      intro left right
      obtain hlt | heq | hgt := lt_trichotomy left right
      · simp [hlt, hlt.le]
      · simp [heq]
      · simp [hgt.not_gt, hgt.ne', hgt]
    rw [hle, hle, hle]
    exact le_trans

section

attribute [local instance] asciiCaseMapping unitCollation

/-- A search that matches a file by its path and leaves another one out. -/
theorem topRanked_fuzzy :
    SearchesFully
      ⟨[toSearchableWorkspaceEntry ⟨ascii "src/App.ts", .file, some (ascii "src")⟩,
        toSearchableWorkspaceEntry ⟨ascii "b.md", .file, none⟩], false⟩
      (ascii " @sat ") 1 :=
  (topRanked_of_fullRanking ([] : List (RankedSearchResult Unit)) 1 _ _).2 (by decide)

end

end GT3Code.Server
