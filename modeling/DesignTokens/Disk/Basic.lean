import DesignTokens.Disk.Fault
import DesignTokens.Disk.Tree

/-! # Disks

A disk is a tree of files with a folder that paths start from. A path is followed part by part: a
point stays, two points go up, a name goes down, and a link on the way is replaced by what it refers
to. Only so many links are followed, and only names of so many bytes are looked up.

## Main definitions

* `Disk` - a tree of files and the folder that paths start from
* `Disk.locate` - the place that a path leads to
* `Disk.read` - the content of the file that a path leads to
* `Disk.rootOf` - what a walk from a path begins with
-/

namespace DesignTokens

/-- A tree of files and the folder that paths start from. -/
structure Disk where
  tree : Tree
  /-- The place of the folder that paths start from. -/
  here : Place := []
  deriving Inhabited

namespace Disk

/-- The parts of a path between its slashes. A slash at the end counts as a point after it. -/
def parts (path : String) : List String :=
  let parts := ((Text.pieces '/' path.toList).filter (!·.isEmpty)).map String.ofList
  if path.toList.getLast? = some '/' then parts ++ ["."] else parts

/-- Whether a path starts from the root. -/
def isFromRoot (path : String) : Bool :=
  path.toList.head? = some '/'

/-- The number of links that are followed on one way. -/
def maxLinks : Nat := 40

/-- Follows the parts of a path from a place. A link at the very end is kept unless `follow` is set;
any other link is left to `onLink`, with the place to start from and the way that is left. -/
def locateWith (tree : Tree) (follow : Bool) (onLink : Place → List String → Except FileFault Place)
    (place : Place) : List String → Except FileFault Place
  | [] => .ok place
  | part :: way =>
    match tree.get? place with
    | none => .error .missing
    | some (.folder entries) =>
      if part = "." then locateWith tree follow onLink place way
      else if part = ".." then locateWith tree follow onLink place.dropLast way
      else if Path.isTooLongName part then .error .nameTooLong
      else
        match ByName.get? part entries with
        | none => .error .missing
        | some (.link target) =>
          -- A link at the end of the way may be meant itself.
          if way.isEmpty && !follow then .ok (place ++ [part])
          else onLink (if isFromRoot target then [] else place) (parts target ++ way)
        | some _ => locateWith tree follow onLink (place ++ [part]) way
    | some _ => .error .notAFolder

/-- Follows the parts of a path from a place, with the number of links that may be followed. -/
def locateFrom (tree : Tree) (follow : Bool) : Nat → Place → List String → Except FileFault Place
  | 0 => locateWith tree follow fun _ _ => .error .tooManyLinks
  | links + 1 => locateWith tree follow (locateFrom tree follow links)

/-- The place that a path leads to. -/
def locate (disk : Disk) (follow : Bool) (path : Path) : Except FileFault Place :=
  match path.fault? with
  | some fault => .error fault
  | none =>
    locateFrom disk.tree follow maxLinks (if isFromRoot path.text then [] else disk.here)
      (parts path.text)

/-- A path as it is written from the root. -/
def fromRoot (disk : Disk) (path : Path) : Path :=
  (⟨"/" ++ (Path.ofNames disk.here).text⟩ : Path).join path

/-- What stands where a path leads to. -/
def find (disk : Disk) (follow : Bool) (path : Path) : Except FileFault Tree :=
  match disk.locate follow path with
  | .error fault => .error fault
  | .ok place => (disk.tree.get? place).elim (.error .missing) .ok

/-- Whether a path leads to a folder. -/
def isFolder (disk : Disk) (path : Path) : Bool :=
  match disk.find true path with
  | .ok tree => tree.isFolder
  | .error _ => false

/-- Whether a path leads to a file. -/
def isFile (disk : Disk) (path : Path) : Bool :=
  match disk.find true path with
  | .ok tree => tree.isFile
  | .error _ => false

/-- The content of the file that a path leads to. -/
def read (disk : Disk) (path : Path) : Except FileFault Bytes :=
  match disk.find true path with
  | .ok (.file bytes) => .ok bytes
  | .ok _ => .error .isAFolder
  | .error fault => .error fault

/-- What a walk from a path begins with: the tree that stands there, or, for a link to a folder, the
folder. -/
def rootOf (disk : Disk) (path : Path) : Except FileFault Tree :=
  match disk.find false path with
  | .ok (.link target) =>
    match disk.find true path with
    | .ok (.folder entries) => .ok (.folder entries)
    | .ok _ => .ok (.link target)
    | .error fault => .error fault
  | other => other

end Disk

end DesignTokens
