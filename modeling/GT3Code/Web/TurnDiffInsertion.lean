import GT3Code.Web.TurnDiffTree

/-! # Inserting changed files

A directory at a path holds each of its files under the path it has there, its subdirectories under
different names, and the sum of all changes below it. Insertion keeps this and adds one file.
-/

namespace GT3Code.Web

open GT3Code.Base GT3Code.Base.Json

abbrev joinPathSegments (segments : List Text) : Text := joinSegments pathSlash segments

abbrev IsPathSegment (segment : Text) : Prop := IsSegment pathSlash segment

def TurnDiffTreeFileNode.changes (node : TurnDiffTreeFileNode) : TurnDiffStat := node.stat.getD 0

def totalChanges (nodes : List TurnDiffTreeFileNode) : TurnDiffStat :=
  (nodes.map TurnDiffTreeFileNode.changes).sum

theorem totalChanges_perm {nodes others : List TurnDiffTreeFileNode} (h : nodes.Perm others) :
    totalChanges nodes = totalChanges others :=
  (h.map _).sum_eq

namespace MutableDirectoryNode

mutual

def filesBelow : MutableDirectoryNode → List TurnDiffTreeFileNode
  | mk _ _ _ directories files => filesBelowAll directories ++ files

def filesBelowAll : List MutableDirectoryNode → List TurnDiffTreeFileNode
  | [] => []
  | directory :: directories => filesBelow directory ++ filesBelowAll directories

end

theorem filesBelowAll_eq (directories : List MutableDirectoryNode) :
    filesBelowAll directories = directories.flatMap filesBelow := by
  induction directories with
  | nil => rfl
  | cons directory directories ih => rw [filesBelowAll, ih, List.flatMap_cons]

/-- What the directory at these segments has become by insertions. -/
inductive Grown : List Text → MutableDirectoryNode → Prop
  | mk {segments : List Text} {name path : Text} {stat : TurnDiffStat}
      {directories : List MutableDirectoryNode} {files : List TurnDiffTreeFileNode}
      (hpath : path = joinPathSegments segments)
      (hbelow : ∀ directory ∈ directories, Grown (segments ++ [directory.name]) directory)
      (hsegments : ∀ directory ∈ directories, IsPathSegment directory.name)
      (hnames : (directories.map MutableDirectoryNode.name).Nodup)
      (hfiles : ∀ file ∈ files, IsPathSegment file.name ∧
        file.path = joinPathSegments (segments ++ [file.name]))
      (hstat : stat = totalChanges (filesBelow (.mk name path stat directories files))) :
      Grown segments (.mk name path stat directories files)

variable {segments : List Text} {segment : Text} {directory : MutableDirectoryNode}
  {directories : List MutableDirectoryNode} {file : TurnDiffTreeFileNode}

theorem grown_emptyRoot : Grown [] emptyRoot :=
  .mk rfl nofun nofun List.nodup_nil nofun rfl

theorem setDirectory_split (hnames : (directories.map name).Nodup) (hname : directory.name = segment) :
    ∃ before after, setDirectory directories directory = before ++ directory :: after ∧
      ((∃ existing, directories.find? (fun other => other.name = segment) = some existing ∧
          existing.name = segment ∧ directories = before ++ existing :: after) ∨
        (directories.find? (fun other => other.name = segment) = none ∧
          directories = before ∧ after = [] ∧ segment ∉ directories.map name)) := by
  cases hfind : directories.find? fun other => other.name = segment with
  | none =>
    have habsent : ∀ other ∈ directories, ¬other.name = segment := by
      simpa using List.find?_eq_none.mp hfind
    refine ⟨directories, [], ?_, Or.inr ⟨rfl, rfl, rfl, ?_⟩⟩
    · rw [setDirectory, if_neg]
      simpa [hname] using habsent
    · intro hmem
      obtain ⟨other, hother, heq⟩ := List.mem_map.mp hmem
      exact habsent other hother heq
  | some existing =>
    obtain ⟨hexisting, before, after, hsplit, hbefore⟩ := List.find?_eq_some_iff_append.mp hfind
    have hsame : existing.name = segment := of_decide_eq_true hexisting
    refine ⟨before, after, ?_, Or.inl ⟨existing, rfl, hsame, hsplit⟩⟩
    rw [hsplit, List.map_append, List.map_cons] at hnames
    obtain ⟨-, hafter, -⟩ := List.nodup_append.mp hnames
    have hafter := (List.nodup_cons.mp hafter).1
    have hkeep : ∀ others : List MutableDirectoryNode, (∀ other ∈ others, other.name ≠ segment) →
        others.map (fun other => if other.name = directory.name then directory else other) =
          others := by
      intro others hothers
      refine (List.map_congr_left fun other hother => ?_).trans (List.map_id _)
      rw [hname, if_neg (hothers other hother), id]
    rw [setDirectory, if_pos, hsplit, List.map_append, List.map_cons, hkeep before, hkeep after,
      if_pos (hsame.trans hname.symm)]
    · intro other hother heq
      exact hafter (List.mem_map.mpr ⟨other, hother, heq.trans hsame.symm⟩)
    · intro other hother
      simpa using hbefore other hother
    · rw [hsplit]
      simp [hsame, hname]

theorem mem_setDirectory (hnames : (directories.map name).Nodup) {other : MutableDirectoryNode}
    (h : other ∈ setDirectory directories directory) : other = directory ∨ other ∈ directories := by
  obtain ⟨before, after, hset, hcases⟩ := setDirectory_split hnames (rfl : directory.name = _)
  rw [hset] at h
  rcases hcases with ⟨existing, -, -, hsplit⟩ | ⟨-, hsplit, hafter, -⟩
  · rw [hsplit]
    grind
  · rw [hsplit]
    grind

theorem nodup_setDirectory (hnames : (directories.map name).Nodup) :
    ((setDirectory directories directory).map name).Nodup := by
  obtain ⟨before, after, hset, hcases⟩ := setDirectory_split hnames (rfl : directory.name = _)
  rw [hset]
  rcases hcases with ⟨existing, -, hsame, hsplit⟩ | ⟨-, hsplit, hafter, habsent⟩
  · rw [hsplit] at hnames
    simpa [hsame] using hnames
  · rw [hsplit] at hnames habsent
    rw [hafter, List.map_append, List.map_singleton]
    exact List.nodup_append.mpr ⟨hnames, List.nodup_singleton _, by
      intro x hx y hy heq
      rw [List.mem_singleton.mp hy] at heq
      exact habsent (heq ▸ hx)⟩

theorem joinPathSegments_eq_nil (h : ∀ segment ∈ segments, IsPathSegment segment)
    (hnil : joinPathSegments segments = []) : segments = [] := by
  cases segments with
  | nil => rfl
  | cons first rest =>
    have hfirst := firstSegment_joinSegments (h first List.mem_cons_self) rest
    rw [show joinSegments pathSlash (first :: rest) = [] from hnil] at hfirst
    exact absurd hfirst.symm (h first List.mem_cons_self).1

theorem name_insertFile (file : TurnDiffTreeFileNode) (way : List Text)
    (directory : MutableDirectoryNode) : (insertFile file way directory).name = directory.name := by
  cases directory
  cases way <;> rw [insertFile] <;> rfl

theorem addStat_eq (stat : TurnDiffStat) (file : TurnDiffTreeFileNode) :
    addStat stat file.stat = file.changes + stat := by
  unfold TurnDiffTreeFileNode.changes
  cases file.stat with
  | none => rw [addStat, Option.getD_none, zero_add]
  | some added => rw [addStat, Option.getD_some, add_comm]

theorem grown_getDirectory (h : Grown segments directory)
    (hvalid : ∀ segment ∈ segments, IsPathSegment segment) :
    Grown (segments ++ [segment]) (getDirectory directory segment) ∧
      (getDirectory directory segment).name = segment := by
  obtain ⟨rfl, hbelow, -, -, -, -⟩ := h
  rename_i name stat directories files
  unfold getDirectory
  cases hfind : (directories.find? fun other => other.name = segment) with
  | some existing =>
    have hname : existing.name = segment := by simpa using List.find?_some hfind
    have hgrown := hbelow existing (List.mem_of_find?_eq_some hfind)
    rw [hname] at hgrown
    rw [MutableDirectoryNode.directories, hfind]
    exact ⟨hgrown, hname⟩
  | none =>
    rw [MutableDirectoryNode.directories, hfind, Option.getD_none]
    refine ⟨.mk ?_ nofun nofun List.nodup_nil nofun rfl, rfl⟩
    rw [MutableDirectoryNode.path]
    by_cases hnil : segments = []
    · rw [hnil, if_neg (by simp), List.nil_append, joinPathSegments, joinSegments,
        List.intercalate_singleton]
    · rw [if_pos (fun heq => hnil (joinPathSegments_eq_nil hvalid heq)), joinPathSegments,
        joinPathSegments, joinSegments_append hnil (List.cons_ne_nil _ _), joinSegments,
        joinSegments, List.intercalate_singleton]

theorem grown_insertFile {way : List Text} (h : Grown segments directory)
    (hvalid : ∀ segment ∈ segments, IsPathSegment segment)
    (hway : ∀ segment ∈ way, IsPathSegment segment) (hname : IsPathSegment file.name)
    (hpath : file.path = joinPathSegments (segments ++ way ++ [file.name])) :
    Grown segments (insertFile file way directory) ∧
      (insertFile file way directory).filesBelow.Perm (file :: directory.filesBelow) := by
  induction way generalizing segments directory with
  | nil =>
    rw [List.append_nil] at hpath
    obtain ⟨hself, hbelow, hsegments, hnames, hfiles, hstat⟩ := h
    rename_i name path stat directories files
    have hperm : (filesBelow (mk name path (addStat stat file.stat) directories
        (files ++ [file]))).Perm (file :: filesBelow (mk name path stat directories files)) := by
      rw [filesBelow, filesBelow, ← List.append_assoc]
      exact List.perm_append_singleton _ _
    refine ⟨?_, hperm⟩
    rw [insertFile]
    refine .mk hself hbelow hsegments hnames ?_ ?_
    · intro other hother
      rcases List.mem_append.mp hother with hother | hother
      · exact hfiles other hother
      · rw [List.mem_singleton.mp hother]
        exact ⟨hname, hpath⟩
    · rw [totalChanges_perm hperm, addStat_eq, hstat]
      rfl
  | cons segment way ih =>
    have hsegment := hway segment List.mem_cons_self
    obtain ⟨hgrown, hcurrent⟩ := @grown_getDirectory _ segment _ h hvalid
    obtain ⟨hself, hbelow, hsegments, hnames, hfiles, hstat⟩ := h
    rename_i name path stat directories files
    generalize hcurrent' : getDirectory (mk name path stat directories files) segment = current
      at hgrown hcurrent
    obtain ⟨hnext, hnextPerm⟩ := ih hgrown
      (fun s hs => by
        rcases List.mem_append.mp hs with hs | hs
        · exact hvalid s hs
        · rwa [List.mem_singleton.mp hs])
      (fun s hs => hway s (List.mem_cons_of_mem _ hs)) (by simpa using hpath)
    have hnextName : (insertFile file way current).name = segment :=
      (name_insertFile file way current).trans hcurrent
    rw [insertFile, hcurrent']
    generalize insertFile file way current = next at hnext hnextPerm hnextName
    obtain ⟨before, after, hset, hcases⟩ := setDirectory_split hnames hnextName
    have hperm : (filesBelowAll (setDirectory directories next)).Perm
        (file :: filesBelowAll directories) := by
      rw [hset, filesBelowAll_eq, filesBelowAll_eq]
      rcases hcases with ⟨existing, hfind, -, hsplit⟩ | ⟨hfind, hsplit, hafter, -⟩
      · have hexisting : current = existing := by
          rw [← hcurrent', getDirectory, MutableDirectoryNode.directories, hfind, Option.getD_some]
        rw [hsplit, ← hexisting]
        simp only [List.flatMap_append, List.flatMap_cons]
        refine (List.Perm.append_left _ (hnextPerm.append_right _)).trans ?_
        exact List.perm_middle
      · have hcreated : current.filesBelow = [] := by
          rw [← hcurrent', getDirectory, MutableDirectoryNode.directories, hfind, Option.getD_none]
          rfl
        rw [hcreated] at hnextPerm
        rw [hafter, hsplit]
        simp only [List.flatMap_append, List.flatMap_cons, List.flatMap_nil, List.append_nil]
        exact (List.Perm.append_left _ hnextPerm).trans (List.perm_append_singleton _ _)
    have hperm' : (filesBelow (mk name path (addStat stat file.stat) (setDirectory directories next)
        files)).Perm (file :: filesBelow (mk name path stat directories files)) := by
      rw [filesBelow, filesBelow]
      exact hperm.append_right files
    refine ⟨.mk hself ?_ ?_ (nodup_setDirectory hnames) hfiles ?_, hperm'⟩
    · intro other hother
      rcases mem_setDirectory hnames hother with rfl | hmem
      · rwa [hnextName]
      · exact hbelow other hmem
    · intro other hother
      rcases mem_setDirectory hnames hother with rfl | hmem
      · rwa [hnextName]
      · exact hsegments other hmem
    · rw [totalChanges_perm hperm', addStat_eq, hstat]
      rfl

end MutableDirectoryNode

theorem isPathSegment_of_normalized {path segment : Text} (h : segment ∈ normalizePathSegments path) :
    IsPathSegment segment := by
  obtain ⟨hmem, hlength⟩ := List.mem_filter.mp h
  exact ⟨List.ne_nil_of_length_pos (of_decide_eq_true hlength), notMem_splitOn hmem⟩

def changedFile (file : TurnDiffFileChange) : Option TurnDiffTreeFileNode :=
  let segments := normalizePathSegments file.path
  segments.getLast?.map fun name =>
    { name := name, path := joinPathSegments segments, stat := readStat file }

open MutableDirectoryNode in
theorem grown_insertChange {root : MutableDirectoryNode} (h : Grown [] root)
    (file : TurnDiffFileChange) :
    Grown [] (insertChange root file) ∧
      (insertChange root file).filesBelow.Perm ((changedFile file).toList ++ root.filesBelow) := by
  have hvalid := fun segment => @isPathSegment_of_normalized file.path segment
  unfold insertChange changedFile
  generalize normalizePathSegments file.path = segments at hvalid ⊢
  rcases List.eq_nil_or_concat segments with rfl | ⟨way, name, rfl⟩
  · exact ⟨h, List.Perm.refl _⟩
  · rw [List.concat_eq_append] at hvalid ⊢
    have hname := hvalid name (by simp)
    have hinsert := @grown_insertFile _ _
      ⟨name, joinPathSegments (way ++ [name]), readStat file⟩ _ h nofun (fun segment hsegment => hvalid segment (by simp [hsegment])) hname rfl
    simp only [List.length_append, List.length_singleton, Nat.succ_ne_zero, if_false,
      List.getLast?_concat, hname.1, List.dropLast_concat, Option.map_some, Option.toList_some,
      List.singleton_append]
    exact hinsert

open MutableDirectoryNode in
theorem grown_foldl_insertChange (files : List TurnDiffFileChange) {root : MutableDirectoryNode}
    (h : Grown [] root) :
    Grown [] (files.foldl insertChange root) ∧
      (files.foldl insertChange root).filesBelow.Perm
        (files.filterMap changedFile ++ root.filesBelow) := by
  induction files generalizing root with
  | nil => exact ⟨h, List.Perm.refl _⟩
  | cons file files ih =>
    obtain ⟨hnext, hperm⟩ := grown_insertChange h file
    obtain ⟨hlast, hrest⟩ := ih hnext
    refine ⟨hlast, hrest.trans ?_⟩
    refine (List.Perm.append_left _ hperm).trans ?_
    rw [List.filterMap_cons]
    cases changedFile file with
    | none => exact List.Perm.refl _
    | some node => exact List.perm_middle

end GT3Code.Web
