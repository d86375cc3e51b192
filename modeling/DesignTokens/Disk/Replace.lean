import DesignTokens.Disk.Basic

/-! # Replacing files

A file is replaced in phases: a file with a new name is created in the folder of the path, filled,
made durable and given the permissions of the file it replaces, and then renamed to the path. Until
the last phase nothing changes at the path. When a phase fails the new file is taken away.

## Main definitions

* `Disk.Phase` - the phases of replacing a file
* `Disk.Attempt` - the states that a disk goes through, and the outcome
* `Disk.stage`, `Disk.commit` - the phases up to the last, and the last
* `Disk.replace` - all phases
-/

namespace DesignTokens.Disk

/-- The phases of replacing a file. -/
inductive Phase where
  | create
  | fill
  | sync
  | permit
  | rename
  deriving Repr, DecidableEq

/-- What goes wrong for reasons that do not lie in the tree. -/
structure Refusals where
  /-- Why a phase fails, if it does. -/
  fault? : Phase → Option FileFault
  /-- The number of bytes that the new file gets first. The rest follows if filling does not
  fail. -/
  written : Nat

/-- No phase fails for other reasons. -/
def noRefusals : Refusals := ⟨fun _ => none, 0⟩

/-- What became of several phases. -/
structure Attempt (α : Type) where
  /-- The states between the first and the last, in order. -/
  passed : List Disk
  disk : Disk
  result : Except FileFault α

/-- A file that waits to be renamed. -/
structure Staged where
  folder : Place
  name : String
  deriving Repr, DecidableEq

/-- The names that the way of a path can go by: those on the way to the folder that paths start
from, those in the path and those in links. -/
def wayNames (disk : Disk) (path : Path) : List String :=
  disk.here ++ parts path.text ++ disk.tree.targets.flatMap parts

/-- A name that is none of those that are taken: it is longer than each of them. It stands for one
that is chosen at random. -/
def freshName (taken : List String) : String :=
  let longest := (taken.map String.length).foldl max 0
  String.ofList (".token-refactor-".toList ++ List.replicate longest '0' ++ ".tmp".toList)

/-- The number of bytes that the name of a new file adds to the path of its folder. -/
def stagedNameSize : Nat := 27

/-- Whether the path of a new file in the folder of a path is too long. It is written from the
root. -/
def isTooDeep (disk : Disk) (path : Path) : Bool :=
  Path.sizeLimit ≤ (disk.fromRoot path.parent).text.utf8ByteSize + stagedNameSize

/-- A disk with a new and empty file in the folder of a path. -/
def create (disk : Disk) (path : Path) : Except FileFault (Disk × Staged) :=
  match if disk.isTooDeep path then .error .nameTooLong else disk.locate true path.parent with
  | .error fault => .error fault
  | .ok folder =>
    match disk.tree.get? folder with
    | some (.folder entries) =>
      let name := freshName (entries.map (·.1) ++ disk.wayNames path)
      .ok ({ disk with tree := disk.tree.put folder name (.file []) }, ⟨folder, name⟩)
    | _ => .error .notAFolder

/-- A disk where a staged file has a content. -/
def fill (disk : Disk) (staged : Staged) (content : Bytes) : Disk :=
  { disk with tree := disk.tree.put staged.folder staged.name (.file content) }

/-- A disk without a staged file. -/
def discard (disk : Disk) (staged : Staged) : Disk :=
  { disk with tree := disk.tree.erase staged.folder staged.name }

/-- The content of a staged file. -/
def stagedContent? (disk : Disk) (staged : Staged) : Option Bytes :=
  match disk.tree.get? (staged.folder ++ [staged.name]) with
  | some (.file content) => some content
  | _ => none

/-- The folder and the name that a file is renamed to. A link that has the name is not followed, and
a folder is not replaced. -/
def target (disk : Disk) (path : Path) : Except FileFault (Place × String) :=
  match path.fault?, (parts path.text).reverse with
  | some fault, _ => .error fault
  | none, [] => .error .busy
  | none, name :: before =>
    if name = "." || name = ".." then .error .busy
    else if Path.isTooLongName name then .error .nameTooLong
    else
      match locateFrom disk.tree true maxLinks (if isFromRoot path.text then [] else disk.here)
          before.reverse with
      | .error fault => .error fault
      | .ok folder =>
        match disk.tree.get? folder with
        | some (.folder entries) =>
          -- A file or a link gives way to what is renamed, a folder does not.
          match ByName.get? name entries with
          | some (.folder _) => .error .isAFolder
          | _ => .ok (folder, name)
        | _ => .error .notAFolder

/-- A disk where a staged file has taken its place. -/
def rename (disk : Disk) (staged : Staged) (path : Path) : Except FileFault Disk :=
  match disk.target path with
  | .error fault => .error fault
  | .ok (folder, name) =>
    match disk.tree.get? (staged.folder ++ [staged.name]) with
    | none => .error .missing
    | some file =>
      .ok { disk with tree := (disk.tree.erase staged.folder staged.name).put folder name file }

/-- The phases up to the renaming. The permissions of the file at the path are given on only if
there is one. -/
def stage (refusals : Refusals) (disk : Disk) (path : Path) (content : Bytes) : Attempt Staged :=
  match (refusals.fault? .create).elim (disk.create path) .error with
  | .error fault => ⟨[], disk, .error fault⟩
  | .ok (created, staged) =>
    let begun := created.fill staged (content.take refusals.written)
    match refusals.fault? .fill with
    | some fault => ⟨[created, begun], begun.discard staged, .error fault⟩
    | none =>
      let filled := begun.fill staged content
      let exists_ := (filled.find true path).isOk
      match (refusals.fault? .sync).or (if exists_ then refusals.fault? .permit else none) with
      | some fault => ⟨[created, begun, filled], filled.discard staged, .error fault⟩
      | none => ⟨[created, begun], filled, .ok staged⟩

/-- The renaming of a staged file. -/
def commit (refusals : Refusals) (disk : Disk) (staged : Staged) (path : Path) : Attempt Unit :=
  match (refusals.fault? .rename).elim (disk.rename staged path) .error with
  | .ok disk => ⟨[], disk, .ok ()⟩
  | .error fault => ⟨[], disk.discard staged, .error fault⟩

/-- Replaces the file at a path, or makes one, in all phases. -/
def replace (refusals : Refusals) (disk : Disk) (path : Path) (content : Bytes) : Attempt Unit :=
  let staging := disk.stage refusals path content
  match staging.result with
  | .error fault => ⟨staging.passed, staging.disk, .error fault⟩
  | .ok staged =>
    let commit := staging.disk.commit refusals staged path
    ⟨staging.passed ++ staging.disk :: commit.passed, commit.disk, commit.result⟩

end DesignTokens.Disk
