import GT3Code.Web.TurnDiffInsertion

/-! # The tree shows the changed files

A node at a path stands for one segment or, compacted, for several. Its leaves go on from there,
so that the leaves of a directory are those whose path lies under its path.
-/

namespace GT3Code.Web

open GT3Code.Base GT3Code.Base.Json GT3Code.Shared MutableDirectoryNode

/-! ## Leaves and nodes -/

namespace TurnDiffTreeNode

mutual

def leaves : TurnDiffTreeNode → List TurnDiffTreeFileNode
  | .directory _ _ _ children => leavesOf children
  | .file node => [node]

def leavesOf : List TurnDiffTreeNode → List TurnDiffTreeFileNode
  | [] => []
  | child :: children => leaves child ++ leavesOf children

end

mutual

def nodes : TurnDiffTreeNode → List TurnDiffTreeNode
  | .directory name path stat children => .directory name path stat children :: nodesOf children
  | .file node => [.file node]

def nodesOf : List TurnDiffTreeNode → List TurnDiffTreeNode
  | [] => []
  | child :: children => nodes child ++ nodesOf children

end

mutual

def namedLeaves : TurnDiffTreeNode → List (List Text × TurnDiffTreeFileNode)
  | .directory name _ _ children =>
    (namedLeavesOf children).map fun entry => (name :: entry.1, entry.2)
  | .file node => [([node.name], node)]

def namedLeavesOf : List TurnDiffTreeNode → List (List Text × TurnDiffTreeFileNode)
  | [] => []
  | child :: children => namedLeaves child ++ namedLeavesOf children

end

theorem leavesOf_eq (children : List TurnDiffTreeNode) :
    leavesOf children = children.flatMap leaves := by
  induction children with
  | nil => rfl
  | cons child children ih => rw [leavesOf, ih, List.flatMap_cons]

theorem nodesOf_eq (children : List TurnDiffTreeNode) :
    nodesOf children = children.flatMap nodes := by
  induction children with
  | nil => rfl
  | cons child children ih => rw [nodesOf, ih, List.flatMap_cons]

theorem namedLeavesOf_eq (children : List TurnDiffTreeNode) :
    namedLeavesOf children = children.flatMap namedLeaves := by
  induction children with
  | nil => rfl
  | cons child children ih => rw [namedLeavesOf, ih, List.flatMap_cons]

def IsOnlyDirectory (children : List TurnDiffTreeNode) : Prop :=
  ∃ name path stat grandchildren, children = [.directory name path stat grandchildren]

def head : TurnDiffTreeNode → Option Text
  | .directory name _ _ _ => some (firstSegment pathSlash name)
  | .file _ => none

inductive Placed : List Text → TurnDiffTreeNode → Prop
  | file {segments : List Text} {node : TurnDiffTreeFileNode} (hname : IsPathSegment node.name)
      (hpath : node.path = joinPathSegments (segments ++ [node.name])) :
      Placed segments (.file node)
  | directory {segments own : List Text} {stat : TurnDiffStat} {children : List TurnDiffTreeNode}
      (hne : own ≠ []) (hvalid : ∀ segment ∈ own, IsPathSegment segment)
      (hchildren : ∀ child ∈ children, Placed (segments ++ own) child)
      (hheads : (children.filterMap head).Nodup)
      (hstat : stat = totalChanges (leavesOf children)) (honly : ¬IsOnlyDirectory children) :
      Placed segments (.directory (joinPathSegments own) (joinPathSegments (segments ++ own)) stat
        children)

structure PlacedAt (segments : List Text) (nodes : List TurnDiffTreeNode) : Prop where
  placed : ∀ node ∈ nodes, Placed segments node
  heads : (nodes.filterMap head).Nodup

variable {segments : List Text} {node : TurnDiffTreeNode} {forest children : List TurnDiffTreeNode}

variable {leaf : TurnDiffTreeFileNode}

theorem Placed.leaf_path (h : Placed segments node) (hleaf : leaf ∈ node.leaves) :
    ∃ rest, rest ≠ [] ∧ (∀ segment ∈ rest, IsPathSegment segment) ∧
      leaf.path = joinPathSegments (segments ++ rest) ∧
      (1 < rest.length → node.head = rest.head?) := by
  induction h with
  | file hname hpath =>
    rw [leaves, List.mem_singleton] at hleaf
    subst hleaf
    exact ⟨_, List.cons_ne_nil _ [], by simpa using hname, hpath, by simp⟩
  | @directory segments own stat children hne hvalid _ _ _ _ ih =>
    rw [leaves, leavesOf_eq] at hleaf
    obtain ⟨child, hchild, hmem⟩ := List.mem_flatMap.mp hleaf
    obtain ⟨rest, -, hrest, hpath, -⟩ := ih child hchild hmem
    obtain ⟨first, own, rfl⟩ := List.exists_cons_of_ne_nil hne
    refine ⟨first :: own ++ rest, by simp, ?_, by rw [hpath, List.append_assoc], fun _ => ?_⟩
    · intro segment hsegment
      rcases List.mem_append.mp hsegment with hmem | hmem
      · exact hvalid segment hmem
      · exact hrest segment hmem
    · rw [head, firstSegment_joinSegments (hvalid first List.mem_cons_self)]
      rfl

theorem Placed.named_path (h : Placed segments node) {names : List Text}
    (hleaf : (names, leaf) ∈ node.namedLeaves) :
    names ≠ [] ∧ leaf.path = joinPathSegments (segments ++ [joinPathSegments names]) := by
  induction h generalizing names with
  | file hname hpath =>
    rw [namedLeaves, List.mem_singleton, Prod.mk.injEq] at hleaf
    obtain ⟨rfl, rfl⟩ := hleaf
    refine ⟨List.cons_ne_nil _ _, ?_⟩
    rw [hpath]
    exact (joinSegments_nested _ (List.cons_ne_nil _ _)).symm
  | @directory segments own stat children hne hvalid _ _ _ _ ih =>
    rw [namedLeaves, namedLeavesOf_eq] at hleaf
    obtain ⟨⟨rest, leaf'⟩, hmem, heq⟩ := List.mem_map.mp hleaf
    obtain ⟨child, hchild, hmem⟩ := List.mem_flatMap.mp hmem
    obtain ⟨rfl, rfl⟩ := Prod.mk.inj heq
    obtain ⟨hrest, hpath⟩ := ih child hchild hmem
    refine ⟨List.cons_ne_nil _ _, ?_⟩
    simp only [joinPathSegments] at hpath ⊢
    rw [hpath, joinSegments_nested_head hne, joinSegments_nested _ hrest,
      joinSegments_nested _ (by simp [hne]), List.append_assoc]

theorem map_snd_namedLeaves (node : TurnDiffTreeNode) :
    node.namedLeaves.map Prod.snd = node.leaves := by
  induction node using TurnDiffTreeNode.rec
    (motive_2 := fun children => (namedLeavesOf children).map Prod.snd = leavesOf children) with
  | directory name path stat children ih =>
    rw [namedLeaves, leaves, ← ih, List.map_map]
    rfl
  | file node => rfl
  | nil => rfl
  | cons child children hchild hchildren =>
    rw [namedLeavesOf, leavesOf, List.map_append, hchild, hchildren]

theorem PlacedAt.filter_leaves (h : PlacedAt segments forest)
    (hvalid : ∀ segment ∈ segments, IsPathSegment segment) (hmem : node ∈ forest)
    {way : List Text} (hway : ∀ segment ∈ way, IsPathSegment segment) (hne : way ≠ [])
    (hhead : node.head = way.head?) :
    (leavesOf forest).filter (fun leaf =>
        LiesUnder pathSlash (joinPathSegments (segments ++ way)) leaf.path) =
      node.leaves.filter (fun leaf =>
        LiesUnder pathSlash (joinPathSegments (segments ++ way)) leaf.path) := by
  obtain ⟨before, after, rfl⟩ := List.append_of_mem hmem
  obtain ⟨first, hfirst⟩ : ∃ first, way.head? = some first := by
    cases way with
    | nil => exact absurd rfl hne
    | cons first rest => exact ⟨first, rfl⟩
  have hheads := h.heads
  rw [List.filterMap_append, List.filterMap_cons_some (hhead.trans hfirst)] at hheads
  obtain ⟨-, hafter, hbefore⟩ := List.nodup_append.mp hheads
  have hafter := (List.nodup_cons.mp hafter).1
  have hnone : ∀ others : List TurnDiffTreeNode, (∀ other ∈ others, Placed segments other) →
      first ∉ others.filterMap head →
      (leavesOf others).filter (fun leaf =>
        LiesUnder pathSlash (joinPathSegments (segments ++ way)) leaf.path) = [] := by
    intro others hothers habsent
    rw [List.filter_eq_nil_iff]
    intro leaf hleaf hunder
    rw [leavesOf_eq] at hleaf
    obtain ⟨other, hother, hleaf⟩ := List.mem_flatMap.mp hleaf
    obtain ⟨rest, hrest, hrestValid, hpath, hotherHead⟩ := (hothers other hother).leaf_path hleaf
    rw [decide_eq_true_eq, hpath] at hunder
    have hjoin : ∀ {xs : List Text}, (∀ segment ∈ xs, IsPathSegment segment) →
        ∀ segment ∈ segments ++ xs, IsPathSegment segment := by
      intro xs hxs segment hsegment
      rcases List.mem_append.mp hsegment with hmem | hmem
      · exact hvalid segment hmem
      · exact hxs segment hmem
    obtain ⟨tail, htail, heq⟩ := (liesUnder_joinSegments_iff (hjoin hway) (hjoin hrestValid)
      (by simp [hne]) (by simp [hrest])).mp hunder
    rw [List.append_assoc] at heq
    have hsplit := List.append_cancel_left heq
    refine habsent (List.mem_filterMap.mpr ⟨other, hother, ?_⟩)
    rw [hotherHead, hsplit, List.head?_append, hfirst]
    · rfl
    · rw [hsplit, List.length_append]
      have := List.length_pos_iff.mpr hne
      have := List.length_pos_iff.mpr htail
      omega
  have hplaced := h.placed
  rw [leavesOf_eq, List.flatMap_append, List.flatMap_cons, List.filter_append, List.filter_append,
    ← leavesOf_eq, ← leavesOf_eq, hnone before, hnone after, List.nil_append, List.append_nil]
  · exact fun other hother => hplaced other (by simp [hother])
  · exact hafter
  · exact fun other hother => hplaced other (by simp [hother])
  · exact fun hmem' => hbefore first hmem' first List.mem_cons_self rfl

theorem isPathSegment_append {own : List Text} (h : ∀ segment ∈ segments, IsPathSegment segment)
    (hown : ∀ segment ∈ own, IsPathSegment segment) :
    ∀ segment ∈ segments ++ own, IsPathSegment segment := by
  intro segment hsegment
  rcases List.mem_append.mp hsegment with hmem | hmem
  · exact h segment hmem
  · exact hown segment hmem

/-- What a directory node anywhere below a node says about its leaves. -/
structure HoldsItsLeaves (leaves : List TurnDiffTreeFileNode) (path : Text) (stat : TurnDiffStat)
    (children : List TurnDiffTreeNode) : Prop where
  leaves : leavesOf children = leaves.filter fun leaf => LiesUnder pathSlash path leaf.path
  stat : stat = totalChanges (leavesOf children)
  compacted : ¬IsOnlyDirectory children

variable {name path : Text} {stat : TurnDiffStat}

theorem Placed.holdsItsLeaves (h : Placed segments node)
    (hvalid : ∀ segment ∈ segments, IsPathSegment segment)
    (hmem : .directory name path stat children ∈ node.nodes) :
    HoldsItsLeaves node.leaves path stat children ∧
      ∃ way, way ≠ [] ∧ (∀ segment ∈ way, IsPathSegment segment) ∧
        path = joinPathSegments (segments ++ way) ∧ node.head = way.head? := by
  induction h with
  | file hname hpath =>
    rw [nodes, List.mem_singleton] at hmem
    cases hmem
  | @directory segments own stat' children' hne hown hchildren hheads hstat honly ih =>
    have hhead : ∀ rest : List Text, head (.directory (joinPathSegments own)
        (joinPathSegments (segments ++ own)) stat' children') = (own ++ rest).head? := by
      intro rest
      obtain ⟨first, own, rfl⟩ := List.exists_cons_of_ne_nil hne
      rw [head, firstSegment_joinSegments (hown first List.mem_cons_self)]
      rfl
    rw [nodes, List.mem_cons] at hmem
    rcases hmem with heq | hmem
    · cases heq
      refine ⟨⟨?_, hstat, honly⟩, own, hne, hown, rfl, ?_⟩
      · rw [leaves, eq_comm, List.filter_eq_self]
        intro leaf hleaf
        rw [leavesOf_eq] at hleaf
        obtain ⟨child, hchild, hleaf⟩ := List.mem_flatMap.mp hleaf
        obtain ⟨rest, hrest, hrestValid, hpath, -⟩ := (hchildren child hchild).leaf_path hleaf
        have hplace := isPathSegment_append hvalid hown
        rw [hpath, decide_eq_true_eq]
        exact (liesUnder_joinSegments_iff hplace (isPathSegment_append hplace hrestValid)
          (by simp [hne]) (by simp [hne])).mpr ⟨rest, hrest, rfl⟩
      · rw [hhead [], List.append_nil]
    · rw [nodesOf_eq] at hmem
      obtain ⟨child, hchild, hmem⟩ := List.mem_flatMap.mp hmem
      have hplace := isPathSegment_append hvalid hown
      obtain ⟨hholds, way, hway, hwayValid, hpath, hwayHead⟩ := ih child hchild hplace hmem
      refine ⟨⟨?_, hholds.stat, hholds.compacted⟩, own ++ way, by simp [hne],
        isPathSegment_append hown hwayValid, by rw [hpath, List.append_assoc], hhead way⟩
      rw [leaves, hholds.leaves, hpath]
      exact (PlacedAt.filter_leaves ⟨hchildren, hheads⟩ hplace hchild hwayValid hway hwayHead).symm

theorem PlacedAt.holdsItsLeaves (h : PlacedAt segments forest)
    (hvalid : ∀ segment ∈ segments, IsPathSegment segment)
    (hmem : .directory name path stat children ∈ nodesOf forest) :
    HoldsItsLeaves (leavesOf forest) path stat children := by
  rw [nodesOf_eq] at hmem
  obtain ⟨node, hnode, hmem⟩ := List.mem_flatMap.mp hmem
  obtain ⟨hholds, way, hway, hwayValid, rfl, hhead⟩ :=
    (h.placed node hnode).holdsItsLeaves hvalid hmem
  refine ⟨?_, hholds.stat, hholds.compacted⟩
  rw [hholds.leaves, h.filter_leaves hvalid hnode hwayValid hway hhead]

theorem compactChildren_eq (children : List TurnDiffTreeNode) :
    compactChildren children = children.map compactDirectoryNode := by
  induction children with
  | nil => rfl
  | cons child children ih => rw [compactChildren, ih, List.map_cons]

theorem collapseOnlyChild_of_not (h : ¬IsOnlyDirectory children) :
    collapseOnlyChild name path stat children = .directory name path stat children := by
  rw [collapseOnlyChild.eq_def]
  split
  · exact absurd ⟨_, _, _, _, rfl⟩ h
  · rfl

theorem Placed.compact (h : Placed segments node) : compactDirectoryNode node = node := by
  induction h with
  | file => rfl
  | directory hne hvalid hchildren hheads hstat honly ih =>
    rw [compactDirectoryNode, compactChildren_eq,
      (List.map_congr_left ih).trans (List.map_id _), collapseOnlyChild_of_not honly]

theorem PlacedAt.compact {segment : Text} (h : PlacedAt (segments ++ [segment]) children)
    (hsegment : IsPathSegment segment) :
    let node := compactDirectoryNode (.directory segment
      (joinPathSegments (segments ++ [segment])) (totalChanges (leavesOf children)) children)
    Placed segments node ∧ node.leaves = leavesOf children ∧ node.head = some segment := by
  intro node
  have hnode : node = collapseOnlyChild segment (joinPathSegments (segments ++ [segment]))
      (totalChanges (leavesOf children)) children := by
    show compactDirectoryNode _ = _
    rw [compactDirectoryNode, compactChildren_eq,
      (List.map_congr_left fun child hchild => (h.placed child hchild).compact).trans
        (List.map_id _)]
  have hsingle : joinPathSegments [segment] = segment := List.intercalate_singleton
  rw [hnode]
  by_cases honly : IsOnlyDirectory children
  · obtain ⟨name, path, stat, grandchildren, rfl⟩ := honly
    have hchild := h.placed _ List.mem_cons_self
    cases hchild with
    | @directory _ own _ _ hne hvalid hchildren hheads hstat honly =>
      have hname : segment ++ pathSlash :: joinPathSegments own =
          joinPathSegments (segment :: own) := by
        have hjoin : joinSegments pathSlash ([segment] ++ own) = _ :=
          joinSegments_append (List.cons_ne_nil segment []) hne
        rw [List.singleton_append] at hjoin
        exact (hjoin.trans (by rw [joinSegments, List.intercalate_singleton])).symm
      rw [collapseOnlyChild, collapseOnlyChild_of_not honly, hname]
      rw [List.append_assoc, List.singleton_append] at hchildren ⊢
      refine ⟨.directory (List.cons_ne_nil _ _) ?_ hchildren hheads hstat honly, ?_, ?_⟩
      · exact List.forall_mem_cons.mpr ⟨hsegment, hvalid⟩
      · rw [leaves, leavesOf, leaves, leavesOf, List.append_nil]
      · rw [head, firstSegment_joinSegments hsegment]
  · rw [collapseOnlyChild_of_not honly]
    refine ⟨?_, rfl, ?_⟩
    · have hplaced := @Placed.directory segments [segment] _ _
        (List.cons_ne_nil _ _) (by simpa using hsegment) h.placed h.heads rfl honly
      rwa [hsingle] at hplaced
    · have hfirst := firstSegment_joinSegments hsegment []
      rw [head]
      exact congrArg some (by rwa [show joinSegments pathSlash [segment] = segment from hsingle]
        at hfirst)

section

variable [TextCollation] {directory : MutableDirectoryNode}

def compactedNode (subdirectory : MutableDirectoryNode) : TurnDiffTreeNode :=
  compactDirectoryNode (.directory subdirectory.name subdirectory.path subdirectory.stat
    (toTreeNodes subdirectory))

theorem subdirectoryNodes_eq (directories : List MutableDirectoryNode) :
    subdirectoryNodes directories =
      directories.map fun subdirectory => (subdirectory.name, compactedNode subdirectory) := by
  induction directories with
  | nil => rfl
  | cons directory directories ih =>
    rw [subdirectoryNodes, ih, List.map_cons]
    rfl

theorem compactedNode_placed {subdirectory : MutableDirectoryNode}
    (h : Grown (segments ++ [subdirectory.name]) subdirectory)
    (hplaced : PlacedAt (segments ++ [subdirectory.name]) (toTreeNodes subdirectory))
    (hleaves : (leavesOf (toTreeNodes subdirectory)).Perm subdirectory.filesBelow)
    (hsegment : IsPathSegment subdirectory.name) :
    Placed segments (compactedNode subdirectory) ∧
      (compactedNode subdirectory).leaves.Perm subdirectory.filesBelow ∧
      (compactedNode subdirectory).head = some subdirectory.name := by
  have hpath : subdirectory.path = joinPathSegments (segments ++ [subdirectory.name]) := by
    cases h
    assumption
  have hstat : subdirectory.stat = totalChanges (leavesOf (toTreeNodes subdirectory)) := by
    rw [totalChanges_perm hleaves]
    cases h
    assumption
  have hcompact := hplaced.compact hsegment
  rw [← hpath, ← hstat] at hcompact
  obtain ⟨hnode, hsame, hhead⟩ := hcompact
  exact ⟨hnode, hsame ▸ hleaves, hhead⟩

theorem toTreeNodes_perm (name path : Text) (stat : TurnDiffStat)
    (directories : List MutableDirectoryNode) (files : List TurnDiffTreeFileNode) :
    (toTreeNodes (.mk name path stat directories files)).Perm
      (directories.map compactedNode ++ files.map TurnDiffTreeNode.file) := by
  rw [toTreeNodes, subdirectoryNodes_eq]
  refine List.Perm.append ?_ ((List.mergeSort_perm _ _).map _)
  refine ((List.mergeSort_perm _ _).map _).trans ?_
  rw [List.map_map]
  exact List.Perm.refl _

theorem placedAt_toTreeNodes (h : Grown segments directory) :
    PlacedAt segments (toTreeNodes directory) ∧
      (leavesOf (toTreeNodes directory)).Perm directory.filesBelow := by
  induction h with
  | @mk segments name path stat directories files hpath hbelow hsegments hnames hfiles hstat ih =>
    have hcompacted := fun subdirectory hmem => compactedNode_placed (hbelow subdirectory hmem)
      (ih subdirectory hmem).1 (ih subdirectory hmem).2 (hsegments subdirectory hmem)
    have hperm := toTreeNodes_perm name path stat directories files
    refine ⟨⟨?_, ?_⟩, ?_⟩
    · intro node hnode
      rcases List.mem_append.mp (hperm.mem_iff.mp hnode) with hmem | hmem
      · obtain ⟨subdirectory, hsub, rfl⟩ := List.mem_map.mp hmem
        exact (hcompacted subdirectory hsub).1
      · obtain ⟨file, hfile, rfl⟩ := List.mem_map.mp hmem
        exact .file (hfiles file hfile).1 (hfiles file hfile).2
    · refine (hperm.filterMap head).nodup_iff.mpr ?_
      have hfileHeads : (files.map TurnDiffTreeNode.file).filterMap head = [] := by
        rw [List.filterMap_map]
        exact List.filterMap_eq_nil_iff.mpr fun file _ => rfl
      have hheads : (directories.map compactedNode).filterMap head =
          directories.map MutableDirectoryNode.name := by
        rw [List.filterMap_map, ← List.filterMap_eq_map]
        exact List.filterMap_congr fun subdirectory hsub => (hcompacted subdirectory hsub).2.2
      rw [List.filterMap_append, hfileHeads, hheads, List.append_nil]
      exact hnames
    · rw [leavesOf_eq]
      refine (hperm.flatMap_right leaves).trans ?_
      have hfileLeaves : (files.map TurnDiffTreeNode.file).flatMap leaves = files := by
        rw [List.flatMap_map]
        exact List.flatMap_singleton' files
      rw [List.flatMap_append, hfileLeaves, filesBelow, filesBelowAll_eq, List.flatMap_map]
      exact (List.Perm.flatMap_left _ fun subdirectory hsub =>
        (hcompacted subdirectory hsub).2.1).append_right files

end

end TurnDiffTreeNode

open TurnDiffTreeNode

structure FaithfulTree (files : List TurnDiffFileChange) (tree : List TurnDiffTreeNode) : Prop where
  leaves : ((leavesOf tree).map fun leaf => (leaf.path, leaf.stat)).Perm
    (files.filterMap fun file =>
      if normalizePathSegments file.path = [] then none
      else some (joinPathSegments (normalizePathSegments file.path), readStat file))
  directories : ∀ name path stat children, .directory name path stat children ∈ nodesOf tree →
    HoldsItsLeaves (leavesOf tree) path stat children
  named : (namedLeavesOf tree).map Prod.snd = leavesOf tree
  names : ∀ entry ∈ namedLeavesOf tree, joinPathSegments entry.1 = entry.2.path
  total : totalChanges (leavesOf tree) =
    summarizeTurnDiffStats (files.filter fun file => normalizePathSegments file.path ≠ [])

theorem changedFile_shown (file : TurnDiffFileChange) :
    (changedFile file).map (fun leaf => (leaf.path, leaf.stat)) =
      if normalizePathSegments file.path = [] then none
      else some (joinPathSegments (normalizePathSegments file.path), readStat file) := by
  unfold changedFile
  cases hlast : (normalizePathSegments file.path).getLast? with
  | none =>
    rw [if_pos (List.getLast?_eq_none_iff.mp hlast)]
    simp only [hlast, Option.map_none]
  | some name =>
    rw [if_neg (fun hnil => by rw [hnil] at hlast; cases hlast)]
    simp only [hlast, Option.map_some]

theorem summarize_eq (files : List TurnDiffFileChange) :
    summarizeTurnDiffStats files = (files.map fun file => (readStat file).getD 0).sum := by
  have hfold : ∀ {add : TurnDiffStat → TurnDiffFileChange → TurnDiffStat},
      (∀ acc file, add acc file = acc + (readStat file).getD 0) → ∀ (files : List _) acc,
        files.foldl add acc = acc + (files.map fun file => (readStat file).getD 0).sum := by
    intro add hadd files
    induction files with
    | nil => intro acc; simp
    | cons file files ih =>
      intro acc
      rw [List.foldl_cons, ih, hadd, List.map_cons, List.sum_cons, add_assoc]
  rw [summarizeTurnDiffStats, hfold, zero_add]
  intro acc file
  cases readStat file with
  | none => exact (add_zero acc).symm
  | some stat => rfl

theorem totalChanges_changedFiles (files : List TurnDiffFileChange) :
    totalChanges (files.filterMap changedFile) =
      summarizeTurnDiffStats (files.filter fun file => normalizePathSegments file.path ≠ []) := by
  rw [summarize_eq]
  induction files with
  | nil => rfl
  | cons file files ih =>
    have hshown := changedFile_shown file
    rw [List.filterMap_cons, List.filter_cons]
    by_cases hnil : normalizePathSegments file.path = []
    · rw [if_pos hnil, Option.map_eq_none_iff] at hshown
      rw [hshown, if_neg (by simp [hnil])]
      exact ih
    · rw [if_neg hnil] at hshown
      obtain ⟨leaf, hleaf, hsame⟩ := Option.map_eq_some_iff.mp hshown
      rw [hleaf, if_pos (by simp [hnil]), List.map_cons, List.sum_cons, ← ih]
      rw [totalChanges, List.map_cons, List.sum_cons, TurnDiffTreeFileNode.changes,
        (Prod.mk.inj hsame).2]
      rfl

/-- The tree of any list of changes shows them. -/
theorem buildTurnDiffTree_faithful [TextCollation] (files : List TurnDiffFileChange) :
    FaithfulTree files (buildTurnDiffTree files) := by
  obtain ⟨hgrown, hfiles⟩ := grown_foldl_insertChange files grown_emptyRoot
  obtain ⟨hplaced, hleaves⟩ := placedAt_toTreeNodes hgrown
  have hperm : (leavesOf (buildTurnDiffTree files)).Perm (files.filterMap changedFile) := by
    refine hleaves.trans (hfiles.trans ?_)
    rw [show emptyRoot.filesBelow = [] from rfl, List.append_nil]
  refine ⟨?_, fun name path stat children hmem => hplaced.holdsItsLeaves nofun hmem, ?_, ?_, ?_⟩
  · refine (hperm.map _).trans ?_
    rw [List.map_filterMap]
    simp only [changedFile_shown]
    exact List.Perm.refl _
  · rw [namedLeavesOf_eq, leavesOf_eq, List.map_flatMap]
    simp only [map_snd_namedLeaves]
  · rintro ⟨names, leaf⟩ hentry
    rw [namedLeavesOf_eq] at hentry
    obtain ⟨node, hnode, hmem⟩ := List.mem_flatMap.mp hentry
    have hpath := ((hplaced.placed node hnode).named_path hmem).2
    rw [List.nil_append, show joinPathSegments [joinPathSegments names] = joinPathSegments names from
      List.intercalate_singleton] at hpath
    exact hpath.symm
  · rw [totalChanges_perm hperm, totalChanges_changedFiles]

end GT3Code.Web
