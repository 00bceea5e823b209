import GT3Code.Base.PosixPath
import GT3Code.Contracts.Keybindings

/-! # Paths within a workspace

`resolveRelativePathWithinRoot` decides from the relative path back whether a path leaves the
root, after every backslash in it was made a slash. Under POSIX a backslash is a character of a
name like any other.
-/

namespace GT3Code.Server

open GT3Code.Base GT3Code.Base.Json GT3Code.Base.Posix GT3Code.Contracts

/-- `input.replaceAll("\\", "/")` -/
def toPosixRelativePath (input : Text) : Text :=
  input.map (fun u => if u = backslash then separator else u)

structure WorkspacePathOutsideRootError where
  workspaceRoot : Text
  relativePath : Text
  deriving DecidableEq

structure ResolvedWorkspacePath where
  absolutePath : Text
  relativePath : Text
  deriving DecidableEq

/-- The relative path leads out of the root, or to the root itself. -/
def LeavesRoot (relativeToRoot : Text) : Prop :=
  relativeToRoot.length = 0 ∨ relativeToRoot = dot ∨ dotDot ++ [separator] <+: relativeToRoot ∨
    relativeToRoot = dotDot ∨ isAbsolute relativeToRoot

instance (relativeToRoot : Text) : Decidable (LeavesRoot relativeToRoot) :=
  inferInstanceAs (Decidable (_ ∨ _ ∨ _ ∨ _ ∨ _))

def resolveRelativePathWithinRoot (cwd workspaceRoot relativePath : Text) :
    Except WorkspacePathOutsideRootError ResolvedWorkspacePath :=
  let normalizedInputPath := trimText relativePath
  if isAbsolute normalizedInputPath then .error ⟨workspaceRoot, relativePath⟩
  else
    let absolutePath := resolve cwd [workspaceRoot, normalizedInputPath]
    let relativeToRoot := toPosixRelativePath (relative cwd workspaceRoot absolutePath)
    if LeavesRoot relativeToRoot then .error ⟨workspaceRoot, relativePath⟩
    else .ok ⟨absolutePath, relativeToRoot⟩

/-! ## Staying inside the root -/

def ProperDescendant (root path : Text) : Prop :=
  ∃ names, names ≠ [] ∧ locate path = locate root ++ names

/-- Exactly the paths below the root are resolved, and the relative path that is returned leads
back to the absolute one. -/
structure StaysInRoot (cwd root relativePath : Text) : Prop where
  accepted : (∃ resolved, resolveRelativePathWithinRoot cwd root relativePath = .ok resolved) ↔
    isAbsolute (trimText relativePath) = false ∧
      ProperDescendant root (resolve cwd [root, trimText relativePath])
  leadsBack : ∀ resolved, resolveRelativePathWithinRoot cwd root relativePath = .ok resolved →
    resolved.absolutePath = resolve cwd [root, trimText relativePath] ∧
      ProperDescendant root resolved.absolutePath ∧
      resolve cwd [root, resolved.relativePath] = resolved.absolutePath

def PlainBelow (cwd root relativePath : Text) : Prop :=
  isAbsolute (trimText relativePath) = false →
    ∀ names, locate (resolve cwd [root, trimText relativePath]) = locate root ++ names →
      ∀ name ∈ names, backslash ∉ name

variable {cwd root relativePath : Text} {names : List Text}

theorem backslash_notMem_toPosixRelativePath (input : Text) :
    backslash ∉ toPosixRelativePath input := by
  intro hmem
  obtain ⟨u, -, hu⟩ := List.mem_map.mp hmem
  split_ifs at hu with hback
  · exact absurd hu (by decide)
  · exact hback hu

theorem toPosixRelativePath_of_notMem {input : Text} (h : backslash ∉ input) :
    toPosixRelativePath input = input := by
  rw [toPosixRelativePath]
  refine (List.map_congr_left (fun u hu => if_neg ?_)).trans (List.map_id _)
  rintro rfl
  exact h hu

theorem resolveRelativePathWithinRoot_absolute (cwd root : Text)
    (h : isAbsolute (trimText relativePath)) :
    resolveRelativePathWithinRoot cwd root relativePath = .error ⟨root, relativePath⟩ := by
  rw [resolveRelativePathWithinRoot, if_pos h]

theorem resolveRelativePathWithinRoot_eq_ok_iff (cwd root : Text)
    (h : isAbsolute (trimText relativePath) = false) (resolved : ResolvedWorkspacePath) :
    resolveRelativePathWithinRoot cwd root relativePath = .ok resolved ↔
      ¬LeavesRoot resolved.relativePath ∧
        resolved.absolutePath = resolve cwd [root, trimText relativePath] ∧
        resolved.relativePath = toPosixRelativePath (relative cwd root resolved.absolutePath) := by
  rw [resolveRelativePathWithinRoot, if_neg (by simp [h])]
  obtain ⟨absolutePath, relativeToRoot⟩ := resolved
  constructor
  · intro hok
    dsimp only at hok
    split_ifs at hok with hleaves
    cases hok
    exact ⟨hleaves, rfl, rfl⟩
  · rintro ⟨hleaves, habsolute, hrelative⟩
    dsimp only at hleaves habsolute hrelative
    subst habsolute
    subst hrelative
    exact if_neg hleaves

theorem not_leavesRoot_names (h : ∀ name ∈ names, IsName name) (hne : names ≠ []) :
    ¬LeavesRoot ([separator].intercalate names) := by
  have hsplit := splitOn_intercalate_names h hne
  have hname : ∀ name ∈ ([separator].intercalate names).splitOn separator, IsName name := by
    rw [hsplit]
    exact h
  generalize [separator].intercalate names = path at hname
  rintro (hempty | rfl | ⟨rest, rfl⟩ | rfl | habsolute)
  · rw [List.length_eq_zero_iff] at hempty
    subst hempty
    exact (hname [] (by decide)).1 rfl
  · exact (hname dot (by decide)).2.1 rfl
  · rw [List.append_assoc, List.singleton_append, List.splitOn_append_cons_self] at hname
    exact (hname dotDot (by rw [List.mem_append]; exact Or.inl (by decide))).2.2.1 rfl
  · exact (hname dotDot (by decide)).2.2.1 rfl
  · cases path with
    | nil => cases habsolute
    | cons u rest =>
      have hu : u = separator := by simpa [isAbsolute] using habsolute
      rw [hu, ← List.nil_append (separator :: rest), List.splitOn_append_cons_self] at hname
      exact (hname [] (by simp)).1 rfl

theorem relative_resolve (hroot : isAbsolute root) (path : Text) :
    relative cwd root (resolve cwd [root, path]) =
      [separator].intercalate (descend (locate root) (locate (resolve cwd [root, path]))) := by
  rw [relative, resolve_absolute hroot, resolve_absolute (isAbsolute_resolve _ _)]

theorem leavesRoot_of_not_properDescendant (hroot : isAbsolute root) {path : Text}
    (h : ¬ProperDescendant root (resolve cwd [root, path])) :
    LeavesRoot (toPosixRelativePath (relative cwd root (resolve cwd [root, path]))) := by
  rw [relative_resolve hroot]
  by_cases hprefix : locate root <+: locate (resolve cwd [root, path])
  · obtain ⟨names, hnames⟩ := hprefix
    have hempty : names = [] := by
      by_contra hne
      exact h ⟨names, hne, hnames.symm⟩
    rw [← hnames, descend_append, hempty]
    exact Or.inl rfl
  · obtain ⟨rest, hrest⟩ := descend_of_not_isPrefix hprefix
    rw [hrest]
    cases rest with
    | nil => exact Or.inr (Or.inr (Or.inr (Or.inl (by decide))))
    | cons name rest =>
      rw [List.intercalate_cons_cons, toPosixRelativePath, List.map_append]
      exact Or.inr (Or.inr (Or.inl (List.prefix_append _ _)))

theorem resolved_of_plain (hroot : isAbsolute root) (hne : names ≠ [])
    (hnames : locate (resolve cwd [root, trimText relativePath]) = locate root ++ names)
    (hplain : ∀ name ∈ names, backslash ∉ name) :
    ¬LeavesRoot ([separator].intercalate names) ∧
      toPosixRelativePath (relative cwd root (resolve cwd [root, trimText relativePath])) =
        [separator].intercalate names ∧
      resolve cwd [root, [separator].intercalate names] =
        resolve cwd [root, trimText relativePath] := by
  have hall : ∀ name ∈ names, IsName name := by
    intro name hname
    refine isName_locate (gather ([root, trimText relativePath].reverse ++ [cwd]) []) name ?_
    rw [← locate_render (isName_locate _), ← resolve, hnames]
    exact List.mem_append_right _ hname
  have hleaves := not_leavesRoot_names hall hne
  refine ⟨hleaves, ?_, ?_⟩
  · rw [relative_resolve hroot, hnames, descend_append]
    refine toPosixRelativePath_of_notMem (fun hmem => ?_)
    obtain hseparator | ⟨name, hname, hback⟩ := mem_intercalate hmem
    · exact absurd hseparator (by decide)
    · exact hplain name hname hback
  · have hstays : isAbsolute ([separator].intercalate names) = false := by
      by_contra habsolute
      exact hleaves (Or.inr (Or.inr (Or.inr (Or.inr (by simpa using habsolute)))))
    rw [resolve_eq_render, resolve_relative hroot hstays, splitOn_intercalate_names hall hne,
      walk_of_isName hall, ← hnames, ← resolve_eq_render]

theorem plain_of_leadsBack (hroot : isAbsolute root) {relativeToRoot : Text}
    (hplain : backslash ∉ relativeToRoot) (hrelative : isAbsolute relativeToRoot = false)
    (hnames : locate (resolve cwd [root, relativeToRoot]) = locate root ++ names) :
    ∀ name ∈ names, backslash ∉ name := by
  intro name hname hback
  rw [resolve_relative hroot hrelative] at hnames
  have hdrop : name ∈ (walk (locate root) (relativeToRoot.splitOn separator)).drop
      (locate root).length := by
    rw [hnames, List.drop_left]
    exact hname
  obtain hnone | hsegment := mem_drop_walk hdrop
  · rw [List.drop_length] at hnone
    cases hnone
  · exact hplain ((splitOn_isInfix hsegment).mem hback)

theorem staysInRoot_of_absolute (cwd root : Text) (h : isAbsolute (trimText relativePath)) :
    StaysInRoot cwd root relativePath := by
  have herror := resolveRelativePathWithinRoot_absolute cwd root h
  constructor
  · simp [herror, h]
  · simp [herror]

theorem staysInRoot_of_outside (hroot : isAbsolute root)
    (hrelative : isAbsolute (trimText relativePath) = false)
    (h : ¬ProperDescendant root (resolve cwd [root, trimText relativePath])) :
    StaysInRoot cwd root relativePath := by
  have hrefused : ∀ resolved,
      resolveRelativePathWithinRoot cwd root relativePath ≠ .ok resolved := by
    intro resolved hresolved
    obtain ⟨hleaves, habsolute, hposix⟩ :=
      (resolveRelativePathWithinRoot_eq_ok_iff cwd root hrelative resolved).mp hresolved
    rw [hposix, habsolute] at hleaves
    exact hleaves (leavesRoot_of_not_properDescendant hroot h)
  constructor
  · constructor
    · intro hok
      obtain ⟨resolved, hresolved⟩ := hok
      exact absurd hresolved (hrefused resolved)
    · exact fun hin => absurd hin.2 h
  · exact fun resolved hresolved => absurd hresolved (hrefused resolved)

theorem StaysInRoot.plain (hroot : isAbsolute root)
    (hrelative : isAbsolute (trimText relativePath) = false) (hne : names ≠ [])
    (hnames : locate (resolve cwd [root, trimText relativePath]) = locate root ++ names)
    (h : StaysInRoot cwd root relativePath) : ∀ name ∈ names, backslash ∉ name := by
  obtain ⟨resolved, hresolved⟩ := h.accepted.mpr ⟨hrelative, names, hne, hnames⟩
  obtain ⟨habsolute, -, hback⟩ := h.leadsBack resolved hresolved
  obtain ⟨hleaves, -, hposix⟩ :=
    (resolveRelativePathWithinRoot_eq_ok_iff cwd root hrelative resolved).mp hresolved
  have hplain : backslash ∉ resolved.relativePath := by
    rw [hposix]
    exact backslash_notMem_toPosixRelativePath _
  have hstays : isAbsolute resolved.relativePath = false := by
    by_contra hleft
    exact hleaves (Or.inr (Or.inr (Or.inr (Or.inr (by simpa using hleft)))))
  exact plain_of_leadsBack hroot hplain hstays (by rw [hback, habsolute, hnames])

theorem staysInRoot_of_plain (hroot : isAbsolute root)
    (hrelative : isAbsolute (trimText relativePath) = false) (hne : names ≠ [])
    (hnames : locate (resolve cwd [root, trimText relativePath]) = locate root ++ names)
    (hplain : ∀ name ∈ names, backslash ∉ name) : StaysInRoot cwd root relativePath := by
  have hok := resolveRelativePathWithinRoot_eq_ok_iff cwd root hrelative
  obtain ⟨hleaves, hposix, hback⟩ := resolved_of_plain hroot hne hnames hplain
  constructor
  · exact ⟨fun _ => ⟨hrelative, names, hne, hnames⟩,
      fun _ => ⟨⟨_, _⟩, (hok _).mpr ⟨hleaves, rfl, hposix.symm⟩⟩⟩
  · intro resolved hresolved
    obtain ⟨-, habsolute, hposixOf⟩ := (hok resolved).mp hresolved
    rw [habsolute, hposix] at hposixOf
    rw [hposixOf, habsolute]
    exact ⟨rfl, ⟨names, hne, hnames⟩, hback⟩

/-- A path stays inside its root exactly if no name between the two has a backslash. -/
theorem staysInRoot_iff (cwd : Text) {root : Text} (hroot : isAbsolute root)
    (relativePath : Text) :
    StaysInRoot cwd root relativePath ↔ PlainBelow cwd root relativePath := by
  cases hrelative : isAbsolute (trimText relativePath) with
  | true =>
    refine iff_of_true (staysInRoot_of_absolute cwd root hrelative) (fun h => ?_)
    rw [hrelative] at h
    cases h
  | false =>
    by_cases hdescendant : ProperDescendant root (resolve cwd [root, trimText relativePath])
    · obtain ⟨names, hne, hnames⟩ := hdescendant
      constructor
      · intro hstays _ others hothers
        rw [← List.append_cancel_left (hnames.symm.trans hothers)]
        exact hstays.plain hroot hrelative hne hnames
      · exact fun hplain =>
          staysInRoot_of_plain hroot hrelative hne hnames (hplain hrelative names hnames)
    · refine iff_of_true (staysInRoot_of_outside hroot hrelative hdescendant) ?_
      intro _ names hnames name hname
      exact absurd ⟨names, List.ne_nil_of_mem hname, hnames⟩ hdescendant

/-- A way up and down again ends below the root. -/
theorem staysInRoot_upAndDown :
    StaysInRoot [] (ascii "/w/./x/") (ascii " a/../../x/b.ts ") := by
  refine (staysInRoot_iff [] (by decide) _).mpr (fun _ names hnames => ?_)
  have hbelow : locate (resolve [] [ascii "/w/./x/", trimText (ascii " a/../../x/b.ts ")]) =
      locate (ascii "/w/./x/") ++ [ascii "b.ts"] := by decide
  rw [List.append_cancel_left (hnames.symm.trans hbelow)]
  decide

/-- A name with a backslash is returned as two names. -/
theorem not_staysInRoot : ¬StaysInRoot [] (ascii "/w") [97, backslash, 98] := by
  intro h
  have hback := (h.leadsBack ⟨[47, 119, 47, 97, 92, 98], [97, 47, 98]⟩ (by decide)).2.2
  exact absurd hback (by decide)

end GT3Code.Server
