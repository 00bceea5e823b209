import GT3Code.Base.CollapsedRuns
import GT3Code.Base.FreshNames
import GT3Code.Shared.Keybindings

/-! # Branch names

A branch name is made from any text by replacing what git does not take, and a feature branch
gets a number where its name is taken.
-/

namespace GT3Code.Shared

open GT3Code.Base GT3Code.Base.Json GT3Code.Contracts

def isQuoteMark (u : CodeUnit) : Bool := u = 39 || u = 34 || u = 96

/-- `[./_-]` -/
def isBranchEdge (u : CodeUnit) : Bool := u = 46 || u = 47 || u = 95 || u = 45

/-- `[a-z0-9/_-]` -/
def isFragmentUnit (u : CodeUnit) : Bool :=
  97 ≤ u && u ≤ 122 || 48 ≤ u && u ≤ 57 || u = 47 || u = 95 || u = 45

def hyphen : CodeUnit := 45

def solidus : CodeUnit := 47

section

variable [CaseMapping]

def sanitizeBranchFragment (raw : Text) : Text :=
  let normalized := trimWhere (fun u => isBranchEdge u || isSpace u)
    ((CaseMapping.toLowerCase (trimText raw)).filter (fun u => !isQuoteMark u))
  let replaced := collapseRuns (fun u => !isFragmentUnit u) hyphen false normalized
  let joined := collapseRuns (fun u => decide (u = hyphen)) hyphen false
    (collapseRuns (fun u => decide (u = solidus)) solidus false replaced)
  let branchFragment := ((trimWhere isBranchEdge joined).take 64).rdropWhile isBranchEdge
  if branchFragment.length > 0 then branchFragment else ascii "update"

def featureStart : Text := ascii "feature/"

def sanitizeFeatureBranchName (raw : Text) : Text :=
  let sanitized := sanitizeBranchFragment raw
  if solidus ∈ sanitized then
    if featureStart <+: sanitized then sanitized else featureStart ++ sanitized
  else featureStart ++ sanitized

def AUTO_FEATURE_BRANCH_FALLBACK : Text := ascii "feature/update"

def resolveAutoFeatureBranchName (existingBranchNames : List Text)
    (preferredBranch : Option Text) : Text :=
  let preferred := preferredBranch.map trimText
  let resolvedBase := sanitizeFeatureBranchName
    ((preferred.filter (fun name => name.length > 0)).getD AUTO_FEATURE_BRANCH_FALLBACK)
  let existingNames := existingBranchNames.map CaseMapping.toLowerCase
  if resolvedBase ∉ existingNames then resolvedBase
  else
    numbered resolvedBase
      (firstFresh (numbered resolvedBase) (numbered_injective resolvedBase) existingNames 2)

end

/-- The names `git check-ref-format --branch` accepts. -/
structure ValidBranchName (name : Text) : Prop where
  components : ∀ component ∈ name.splitOn solidus, component ≠ [] ∧
    component.head? ≠ some 46 ∧ ¬ascii ".lock" <:+ component
  noDotDot : ¬ascii ".." <:+: name
  noAtBrace : ¬ascii "@\x7b" <:+: name
  units : ∀ u ∈ name, 32 < u ∧ u ≠ 127 ∧ u ∉ ascii "~^:?*[\\"
  noLeadingDash : name.head? ≠ some hyphen
  noTrailing : name.getLast? ≠ some solidus ∧ name.getLast? ≠ some 46
  notSpecial : name ≠ ascii "@" ∧ name ≠ ascii "HEAD"

/-- Units of fragments, no slash beside another, and an end that is no separator. -/
structure PlainName (name : Text) : Prop where
  units : ∀ u ∈ name, isFragmentUnit u = true
  slashes : NoDouble solidus name
  trimmed : TrimmedFor isBranchEdge name
  nonempty : name ≠ []

variable {name : Text}

variable {u : CodeUnit}

theorem notMem_of_units (h : ∀ u ∈ name, isFragmentUnit u = true) (hu : isFragmentUnit u = false) :
    u ∉ name :=
  fun hmem => by simp [h u hmem] at hu

theorem splitOn_ne_nil_of_noDouble (h : NoDouble solidus name)
    (hlast : name.getLast? ≠ some solidus) :
    (∀ component ∈ (name.splitOn solidus).tail, component ≠ []) ∧
      (name.head? ≠ some solidus → name ≠ [] → ∀ component ∈ name.splitOn solidus,
        component ≠ []) := by
  induction name with
  | nil => simp
  | cons u rest ih =>
    obtain ⟨hhead, hrest⟩ := List.isChain_cons.mp h
    have hend : rest ≠ [] → rest.getLast? ≠ some solidus := by
      intro hne
      rwa [List.getLast?_cons_of_ne_nil hne] at hlast
    rw [List.splitOn_cons_eq_if_modifyHead]
    by_cases hu : u = solidus
    · subst hu
      have hne : rest ≠ [] := by
        rintro rfl
        exact hlast rfl
      rw [if_pos (by simp), List.tail_cons]
      refine ⟨(ih hrest (hend hne)).2 (fun hnext => hhead solidus hnext ⟨rfl, rfl⟩) hne, ?_⟩
      exact fun hstart => absurd rfl hstart
    · rw [if_neg (by simpa using hu)]
      by_cases hne : rest = []
      · subst hne
        simp
      · obtain ⟨htail, -⟩ := ih hrest (hend hne)
        cases hsplit : rest.splitOn solidus with
        | nil => exact absurd hsplit (List.splitOn_ne_nil _ _)
        | cons first others =>
          rw [hsplit, List.tail_cons] at htail
          rw [List.modifyHead_cons, List.tail_cons]
          refine ⟨htail, fun _ _ component hcomponent => ?_⟩
          obtain rfl | hother := List.mem_cons.mp hcomponent
          · exact List.cons_ne_nil _ _
          · exact htail component hother

theorem isFragmentUnit_iff (u : CodeUnit) : isFragmentUnit u = true ↔
    97 ≤ u ∧ u ≤ 122 ∨ 48 ≤ u ∧ u ≤ 57 ∨ u = 47 ∨ u = 95 ∨ u = 45 := by
  simp only [isFragmentUnit, Bool.or_eq_true, Bool.and_eq_true, decide_eq_true_iff]
  tauto

theorem PlainName.valid (h : PlainName name) : ValidBranchName name := by
  have hstart : ∀ u, isBranchEdge u = true → name.head? ≠ some u := by
    intro u hu hhead
    simp [h.trimmed.1 u hhead] at hu
  have hend : ∀ u, isBranchEdge u = true → name.getLast? ≠ some u := by
    intro u hu hlast
    simp [h.trimmed.2 u hlast] at hu
  have hdot : 46 ∉ name := notMem_of_units h.units (by decide)
  constructor
  · intro component hcomponent
    have hin := splitOn_isInfix hcomponent
    refine ⟨?_, ?_, ?_⟩
    · exact (splitOn_ne_nil_of_noDouble h.slashes (hend _ (by decide))).2 (hstart _ (by decide))
        h.nonempty component hcomponent
    · exact fun hhead => hdot (hin.mem (List.mem_of_mem_head? hhead))
    · exact fun hlock => hdot (hin.mem (hlock.mem (by decide)))
  · exact fun hdots => hdot (hdots.mem (by decide))
  · intro hat
    exact notMem_of_units h.units (u := 64) (by decide) (hat.mem (by decide))
  · intro u hu
    have hunit := h.units u hu
    refine ⟨?_, ?_, ?_⟩
    · rw [isFragmentUnit_iff] at hunit
      simp only [CodeUnit] at hunit ⊢
      omega
    · rintro rfl
      exact absurd hunit (by decide)
    · intro hspecial
      have hnone : ∀ v ∈ ascii "~^:?*[\\", isFragmentUnit v = false := by decide
      simp [hnone u hspecial] at hunit
  · exact hstart _ (by decide)
  · exact ⟨hend _ (by decide), hend _ (by decide)⟩
  · constructor
    · rintro rfl
      exact absurd (h.units 64 (by decide)) (by decide)
    · rintro rfl
      exact absurd (h.units 72 (by decide)) (by decide)

theorem PlainName.append {front : Text} (hunits : ∀ u ∈ front, isFragmentUnit u = true)
    (hslashes : NoDouble solidus front) (hstart : ∀ u ∈ front.head?, isBranchEdge u = false)
    (h : PlainName name) : PlainName (front ++ name) := by
  refine ⟨?_, ?_, ⟨?_, ?_⟩, List.append_ne_nil_of_right_ne_nil _ h.nonempty⟩
  · exact fun u hu => (List.mem_append.mp hu).elim (hunits u) (h.units u)
  · refine List.isChain_append.mpr ⟨hslashes, h.slashes, fun u _ v hv hboth => ?_⟩
    rw [hboth.2] at hv
    exact absurd (h.trimmed.1 solidus hv) (by decide)
  · intro u hu
    cases front with
    | nil => exact h.trimmed.1 u hu
    | cons v front => exact hstart u hu
  · intro u hu
    rw [List.getLast?_append_of_ne_nil _ h.nonempty] at hu
    exact h.trimmed.2 u hu

theorem noDouble_of_notMem (h : u ∉ name) : NoDouble u name := by
  induction name with
  | nil => exact List.IsChain.nil
  | cons v rest ih =>
    rw [List.mem_cons, not_or] at h
    exact List.isChain_cons.mpr ⟨fun _ _ hboth => h.1 hboth.1.symm, ih h.2⟩

theorem plainName_decimal (n : Nat) : PlainName (decimal n) := by
  have hedge : ∀ u ∈ decimal n, isBranchEdge u = false := by
    intro u hu
    have hdigit := digit_of_mem_decimal hu
    simp only [isBranchEdge, Bool.or_eq_false_iff, decide_eq_false_iff_not]
    simp only [CodeUnit] at hdigit ⊢
    omega
  refine ⟨fun u hu => ?_, noDouble_of_notMem (fun hmem => ?_), ⟨?_, ?_⟩, decimal_ne_nil n⟩
  · have hdigit := digit_of_mem_decimal hu
    exact (isFragmentUnit_iff u).mpr (Or.inr (Or.inl hdigit))
  · exact absurd (digit_of_mem_decimal hmem) (by decide)
  · exact fun u hu => hedge u (List.mem_of_mem_head? hu)
  · exact fun u hu => hedge u (List.mem_of_mem_getLast? hu)

theorem PlainName.numbered (h : PlainName name) (suffix : Nat) :
    PlainName (numbered name suffix) := by
  rw [Base.numbered, List.append_cons]
  refine (plainName_decimal suffix).append ?_ ?_ ?_
  · intro u hu
    obtain hname | hhyphen := List.mem_append.mp hu
    · exact h.units u hname
    · rw [List.mem_singleton.mp hhyphen]
      decide
  · refine List.isChain_append.mpr ⟨h.slashes, List.isChain_singleton _, fun u _ v hv hboth => ?_⟩
    cases hv
    exact absurd hboth.2 (by decide)
  · intro u hu
    rw [List.head?_append_of_ne_nil _ h.nonempty] at hu
    exact h.trimmed.1 u hu

theorem PlainName.feature (h : PlainName name) : PlainName (featureStart ++ name) :=
  h.append (by decide) (by unfold NoDouble; decide) (by decide)

/-- What `sanitizeBranchFragment` makes. -/
structure Fragment (name : Text) : Prop extends PlainName name where
  dashes : NoDouble hyphen name
  length_le : name.length ≤ 64

theorem fragment_update : Fragment (ascii "update") := by
  refine ⟨⟨by decide, ?_, ?_, by decide⟩, ?_, by decide⟩
  · unfold NoDouble
    decide
  · unfold TrimmedFor
    decide
  · unfold NoDouble
    decide

variable [CaseMapping]

omit [CaseMapping] in
theorem fragment_replaced (normalized : Text) :
    let joined := collapseRuns (fun u => decide (u = hyphen)) hyphen false
      (collapseRuns (fun u => decide (u = solidus)) solidus false
        (collapseRuns (fun u => !isFragmentUnit u) hyphen false normalized))
    (∀ u ∈ joined, isFragmentUnit u = true) ∧ NoDouble solidus joined ∧ NoDouble hyphen joined := by
  intro joined
  refine ⟨fun u hu => ?_, ?_, noDouble_collapseRuns _ _ _⟩
  · obtain rfl | ⟨hslash, -⟩ := mem_collapseRuns hu
    · decide
    · obtain rfl | ⟨hother, -⟩ := mem_collapseRuns hslash
      · decide
      · obtain rfl | ⟨-, hunit⟩ := mem_collapseRuns hother
        · decide
        · simpa using hunit
  · exact (noDouble_collapseRuns _ _ _).collapseRuns (by decide) _

omit [CaseMapping] in
theorem trimmedFor_rdropWhile_take (p : CodeUnit → Bool) (count : Nat) {trimmed : Text}
    (h : TrimmedFor p trimmed) : TrimmedFor p ((trimmed.take count).rdropWhile p) := by
  refine ⟨fun u hu => ?_, fun u hu => ?_⟩
  · have hprefix := (List.rdropWhile_prefix p (trimmed.take count)).trans (List.take_prefix _ _)
    obtain ⟨rest, hrest⟩ := hprefix
    refine h.1 u ?_
    rw [← hrest, List.head?_append, Option.mem_def.mp hu]
    rfl
  · have hne : (trimmed.take count).rdropWhile p ≠ [] := by
      intro hnil
      rw [hnil] at hu
      cases hu
    have hlast := List.rdropWhile_last_not p (trimmed.take count) hne
    rw [List.getLast?_eq_some_getLast hne] at hu
    cases hu
    simpa using hlast

theorem fragment_sanitizeBranchFragment (raw : Text) : Fragment (sanitizeBranchFragment raw) := by
  obtain ⟨hunits, hslashes, hdashes⟩ := fragment_replaced
    (trimWhere (fun u => isBranchEdge u || isSpace u)
      ((CaseMapping.toLowerCase (trimText raw)).filter (fun u => !isQuoteMark u)))
  rw [sanitizeBranchFragment]
  generalize collapseRuns (fun u => decide (u = hyphen)) hyphen false _ = joined at *
  split_ifs with hlength
  · have hcut : ((trimWhere isBranchEdge joined).take 64).rdropWhile isBranchEdge <+:
        (trimWhere isBranchEdge joined).take 64 := List.rdropWhile_prefix _ _
    have hin : ((trimWhere isBranchEdge joined).take 64).rdropWhile isBranchEdge <:+: joined :=
      (hcut.trans (List.take_prefix _ _)).isInfix.trans (trimWhere_isInfix _ _)
    refine ⟨⟨fun u hu => hunits u (hin.mem hu), hslashes.of_isInfix hin, ?_, ?_⟩,
      hdashes.of_isInfix hin, hcut.length_le.trans (List.length_take_le _ _)⟩
    · exact trimmedFor_rdropWhile_take _ _ (trimmedFor_trimWhere _ _)
    · exact List.ne_nil_of_length_pos hlength
  · exact fragment_update

omit [CaseMapping] in
theorem isSpace_of_isFragmentUnit {u : CodeUnit} (h : isFragmentUnit u = true) :
    isSpace u = false := by
  have hnone : ∀ v ∈ Gc.whitespaceCodes, isFragmentUnit v = false := by decide
  by_contra hblank
  rw [Bool.not_eq_false, isSpace, List.contains_iff_mem] at hblank
  simp [hnone u hblank] at h

omit [CaseMapping] in
theorem trimWhere_of_forall {p : CodeUnit → Bool} (h : ∀ u ∈ name, p u = false) :
    trimWhere p name = name :=
  trimWhere_of_trimmed ⟨fun u hu => h u (List.mem_of_mem_head? hu),
    fun u hu => h u (List.mem_of_mem_getLast? hu)⟩

theorem PlainName.toLowerCase (h : PlainName name) : CaseMapping.toLowerCase name = name := by
  refine toLowerCase_plain (fun u hu => ?_)
  have hunit := (isFragmentUnit_iff u).mp (h.units u hu)
  simp only [CodeUnit] at hunit ⊢
  omega

theorem Fragment.sanitizeBranchFragment_eq (h : Fragment name) :
    sanitizeBranchFragment name = name := by
  have hspace : ∀ u ∈ name, isSpace u = false :=
    fun u hu => isSpace_of_isFragmentUnit (h.units u hu)
  have hquote : name.filter (fun u => !isQuoteMark u) = name := by
    rw [List.filter_eq_self]
    intro u hu
    have hunit := (isFragmentUnit_iff u).mp (h.units u hu)
    simp only [isQuoteMark, Bool.not_eq_true', Bool.or_eq_false_iff, decide_eq_false_iff_not]
    simp only [CodeUnit] at hunit ⊢
    omega
  have hedge : trimWhere (fun u => isBranchEdge u || isSpace u) name = name := by
    refine trimWhere_of_trimmed ⟨fun u hu => ?_, fun u hu => ?_⟩
    · simp [h.trimmed.1 u hu, hspace u (List.mem_of_mem_head? hu)]
    · simp [h.trimmed.2 u hu, hspace u (List.mem_of_mem_getLast? hu)]
  have hother : collapseRuns (fun u => !isFragmentUnit u) hyphen false name = name :=
    collapseRuns_of_forall (fun u hu => by simp [h.units u hu]) false
  have hend : name.rdropWhile isBranchEdge = name := by
    rw [List.rdropWhile_eq_self_iff]
    intro hne
    simpa using h.trimmed.2 _ (List.getLast?_eq_some_getLast hne)
  rw [sanitizeBranchFragment, trimText, trimWhere_of_forall hspace, h.toLowerCase, hquote, hedge,
    hother, (collapseRuns_of_noDouble h.slashes).1, (collapseRuns_of_noDouble h.dashes).1,
    trimWhere_of_trimmed h.trimmed, List.take_of_length_le h.length_le, hend]
  exact if_pos (List.length_pos_of_ne_nil h.nonempty)

/-- The name is plain and under `feature/`. -/
structure FeatureName (name : Text) : Prop where
  plain : PlainName name
  under : featureStart <+: name

theorem featureName_sanitizeFeatureBranchName (raw : Text) :
    FeatureName (sanitizeFeatureBranchName raw) := by
  have hplain := (fragment_sanitizeBranchFragment raw).toPlainName
  rw [sanitizeFeatureBranchName]
  split_ifs with hslash hstart
  · exact ⟨hplain, hstart⟩
  · exact ⟨hplain.feature, List.prefix_append _ _⟩
  · exact ⟨hplain.feature, List.prefix_append _ _⟩

theorem resolveAutoFeatureBranchName_spec (existingBranchNames : List Text)
    (preferredBranch : Option Text) :
    FeatureName (resolveAutoFeatureBranchName existingBranchNames preferredBranch) ∧
      resolveAutoFeatureBranchName existingBranchNames preferredBranch ∉
        existingBranchNames.map CaseMapping.toLowerCase := by
  rw [resolveAutoFeatureBranchName]
  have hbase := featureName_sanitizeFeatureBranchName
    (((preferredBranch.map trimText).filter (fun name => name.length > 0)).getD
      AUTO_FEATURE_BRANCH_FALLBACK)
  generalize sanitizeFeatureBranchName _ = resolvedBase at *
  split_ifs with htaken
  · exact ⟨⟨hbase.plain.numbered _, hbase.under.trans (List.prefix_append _ _)⟩,
      candidate_firstFresh_notMem _ _ _⟩
  · exact ⟨hbase, htaken⟩

/-- Fragments are valid, short and left alone when made again; a feature branch is valid, under
`feature/`, and differs from every existing name whatever the case. -/
theorem branchNames_valid (raw : Text) (existingBranchNames : List Text)
    (preferredBranch : Option Text) :
    ValidBranchName (sanitizeBranchFragment raw) ∧ (sanitizeBranchFragment raw).length ≤ 64 ∧
      sanitizeBranchFragment (sanitizeBranchFragment raw) = sanitizeBranchFragment raw ∧
      ValidBranchName (resolveAutoFeatureBranchName existingBranchNames preferredBranch) ∧
      featureStart <+: resolveAutoFeatureBranchName existingBranchNames preferredBranch ∧
      ∀ existing ∈ existingBranchNames, CaseMapping.toLowerCase existing ≠
        CaseMapping.toLowerCase
          (resolveAutoFeatureBranchName existingBranchNames preferredBranch) := by
  have hfragment := fragment_sanitizeBranchFragment raw
  obtain ⟨hfeature, hfresh⟩ :=
    resolveAutoFeatureBranchName_spec existingBranchNames preferredBranch
  refine ⟨hfragment.valid, hfragment.length_le, hfragment.sanitizeBranchFragment_eq,
    hfeature.plain.valid, hfeature.under, fun existing hexisting hsame => hfresh ?_⟩
  rw [hfeature.plain.toLowerCase] at hsame
  exact List.mem_map.mpr ⟨existing, hexisting, hsame⟩

end GT3Code.Shared
