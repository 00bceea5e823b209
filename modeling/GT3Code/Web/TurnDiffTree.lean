import GT3Code.Base.Segments
import GT3Code.Shared.SearchRanking

/-! # The tree of a turn's changed files

Files are inserted one by one below directories that carry running sums. The directories are then
turned into sorted nodes, and a directory with one directory in it becomes one node.
-/

namespace GT3Code.Web

open GT3Code.Base GT3Code.Base.Json GT3Code.Shared

def pathSlash : CodeUnit := 47

def pathBackslash : CodeUnit := 92

/-! ## Changes -/

@[ext] structure TurnDiffStat where
  additions : Int
  deletions : Int
  deriving DecidableEq

namespace TurnDiffStat

instance : Zero TurnDiffStat := ⟨⟨0, 0⟩⟩

instance : Add TurnDiffStat :=
  ⟨fun left right => ⟨left.additions + right.additions, left.deletions + right.deletions⟩⟩

@[simp] theorem additions_add (left right : TurnDiffStat) :
    (left + right).additions = left.additions + right.additions := rfl

@[simp] theorem deletions_add (left right : TurnDiffStat) :
    (left + right).deletions = left.deletions + right.deletions := rfl

@[simp] theorem additions_zero : (0 : TurnDiffStat).additions = 0 := rfl

@[simp] theorem deletions_zero : (0 : TurnDiffStat).deletions = 0 := rfl

instance : AddCommMonoid TurnDiffStat where
  add_assoc first second third := by ext <;> simp [add_assoc]
  zero_add stat := by ext <;> simp
  add_zero stat := by ext <;> simp
  add_comm left right := by ext <;> simp [add_comm]
  nsmul := nsmulRec

end TurnDiffStat

structure TurnDiffFileChange where
  path : Text
  additions : Option Int
  deletions : Option Int

structure TurnDiffTreeFileNode where
  name : Text
  path : Text
  stat : Option TurnDiffStat

inductive TurnDiffTreeNode where
  | directory (name path : Text) (stat : TurnDiffStat) (children : List TurnDiffTreeNode)
  | file (node : TurnDiffTreeFileNode)

/-- The map of the directories as the list of its values, each under its name. -/
inductive MutableDirectoryNode where
  | mk (name path : Text) (stat : TurnDiffStat) (directories : List MutableDirectoryNode)
      (files : List TurnDiffTreeFileNode)

namespace MutableDirectoryNode

def name : MutableDirectoryNode → Text
  | mk name _ _ _ _ => name

def path : MutableDirectoryNode → Text
  | mk _ path _ _ _ => path

def stat : MutableDirectoryNode → TurnDiffStat
  | mk _ _ stat _ _ => stat

def directories : MutableDirectoryNode → List MutableDirectoryNode
  | mk _ _ _ directories _ => directories

end MutableDirectoryNode

def normalizePathSegments (pathValue : Text) : List Text :=
  ((pathValue.map fun u => if u = pathBackslash then pathSlash else u).splitOn pathSlash).filter
    fun segment => segment.length > 0

def readStat (file : TurnDiffFileChange) : Option TurnDiffStat :=
  match file.additions, file.deletions with
  | some additions, some deletions => some ⟨additions, deletions⟩
  | _, _ => none

def summarizeTurnDiffStats (files : List TurnDiffFileChange) : TurnDiffStat :=
  files.foldl
    (fun acc file =>
      match readStat file with
      | none => acc
      | some stat => acc + stat) 0

namespace MutableDirectoryNode

/-- `directories.set(directory.name, directory)` -/
def setDirectory (directories : List MutableDirectoryNode) (directory : MutableDirectoryNode) :
    List MutableDirectoryNode :=
  if directories.any fun other => other.name = directory.name then
    directories.map fun other => if other.name = directory.name then directory else other
  else directories ++ [directory]

/-- `directories.get(segment)`, or the directory created there. -/
def getDirectory (current : MutableDirectoryNode) (segment : Text) : MutableDirectoryNode :=
  (current.directories.find? fun directory => directory.name = segment).getD
    (mk segment
      (if current.path ≠ [] then current.path ++ pathSlash :: segment else segment) 0 [] [])

def addStat (stat : TurnDiffStat) : Option TurnDiffStat → TurnDiffStat
  | none => stat
  | some added => stat + added

/-- The file is pushed at the end of the way, and every ancestor on it counts its changes. -/
def insertFile (file : TurnDiffTreeFileNode) :
    List Text → MutableDirectoryNode → MutableDirectoryNode
  | [], mk name path stat directories files =>
    mk name path (addStat stat file.stat) directories (files ++ [file])
  | segment :: segments, mk name path stat directories files =>
    mk name path (addStat stat file.stat)
      (setDirectory directories
        (insertFile file segments
          (getDirectory (mk name path stat directories files) segment))) files

end MutableDirectoryNode

open MutableDirectoryNode in
def insertChange (root : MutableDirectoryNode) (file : TurnDiffFileChange) : MutableDirectoryNode :=
  let segments := normalizePathSegments file.path
  if segments.length = 0 then root
  else
    let filePath := joinSegments pathSlash segments
    match segments.getLast? with
    | none => root
    | some fileName =>
      if fileName = [] then root
      else
        insertFile { name := fileName, path := filePath, stat := readStat file }
          segments.dropLast root

def emptyRoot : MutableDirectoryNode := .mk [] [] 0 [] []

/-- The loop of `compactDirectoryNode`. -/
def collapseOnlyChild (name path : Text) (stat : TurnDiffStat) :
    List TurnDiffTreeNode → TurnDiffTreeNode
  | [.directory childName childPath childStat grandchildren] =>
    collapseOnlyChild (name ++ pathSlash :: childName) childPath childStat grandchildren
  | children => .directory name path stat children

mutual

def compactDirectoryNode : TurnDiffTreeNode → TurnDiffTreeNode
  | .directory name path stat children =>
    collapseOnlyChild name path stat (compactChildren children)
  | .file node => .file node

def compactChildren : List TurnDiffTreeNode → List TurnDiffTreeNode
  | [] => []
  | child :: children => compactDirectoryNode child :: compactChildren children

end

section

variable [TextCollation]

def comparesBefore (left right : Text) : Bool := TextCollation.localeCompare left right ≤ 0

mutual

/-- The subdirectories are sorted by the names they have before they are compacted. -/
def toTreeNodes : MutableDirectoryNode → List TurnDiffTreeNode
  | .mk _ _ _ directories files =>
    ((subdirectoryNodes directories).mergeSort fun left right =>
        comparesBefore left.1 right.1).map Prod.snd ++
      (files.mergeSort fun left right => comparesBefore left.name right.name).map
        TurnDiffTreeNode.file

def subdirectoryNodes : List MutableDirectoryNode → List (Text × TurnDiffTreeNode)
  | [] => []
  | subdirectory :: subdirectories =>
    (subdirectory.name,
      compactDirectoryNode (.directory subdirectory.name subdirectory.path subdirectory.stat
        (toTreeNodes subdirectory))) :: subdirectoryNodes subdirectories

end

def buildTurnDiffTree (files : List TurnDiffFileChange) : List TurnDiffTreeNode :=
  toTreeNodes (files.foldl insertChange emptyRoot)

end

end GT3Code.Web
