import DesignTokens.Disk.Tree
import DesignTokens.Finding
import DesignTokens.Glob
import DesignTokens.Disk.Fault

/-! # Walks

A walk goes through a tree and yields its files. The members of a folder come in the order of their
names, a folder's own files before what comes after the folder. What is excluded is left out with
all that is below it; links are not followed and are not files.

## Main definitions

* `Walk.Options` - which files a walk yields
* `Walk.entriesAt` - the files of a tree that are not excluded, in order
* `Walk.collect` - the paths of the files that a walk yields
-/

namespace DesignTokens.Walk

/-- Which files a walk yields. -/
structure Options where
  /-- The extensions, in normal form, of the files wanted. -/
  extensions : Names
  /-- What has a name or a path below the root that one of these describes is left out. -/
  excludes : List Glob := []
  /-- Whether hidden entries and folders of dependencies are left out. -/
  defaultExcludes : Bool := true
  deriving Repr, DecidableEq

namespace Options

/-- The options for files with given extensions. -/
def ofExtensions (extensions : List String) : Options where
  extensions := Names.ofList (extensions.map normalizeExtension)

/-- The wording of the error for a text that is no glob. -/
def excludeMessage (pattern : String) : String :=
  "invalid exclude pattern '" ++ pattern ++ "'"

/-- Options with more globs; the first text that is no glob is the error. -/
def exclude (options : Options) : List String → Except String Options
  | [] => .ok options
  | pattern :: rest =>
    match Glob.read? pattern.toList with
    | none => .error pattern
    | some glob => exclude { options with excludes := options.excludes ++ [glob] } rest

end Options

/-- The folders of dependencies. -/
def dependencyFolders : List String :=
  ["node_modules", "bower_components", "Pods"]

/-- Whether a name is hidden or that of a folder of dependencies. -/
def isExcludedByDefault (name : String) : Bool :=
  name.toList.head? = some '.' || dependencyFolders.contains name

/-- Whether the entry at a place below the root is left out. -/
def isExcluded (options : Options) (place : Place) : Bool :=
  let name := place.getLast?.getD ""
  (options.defaultExcludes && isExcludedByDefault name) ||
    options.excludes.any fun glob =>
      glob.describes name.toList || glob.describes (Path.ofNames place).text.toList

/-- What a walk comes upon. -/
inductive Entry where
  | file (place : Place)
  /-- A folder that cannot be opened. -/
  | shut (place : Place)
  deriving Repr, DecidableEq

/-- The place of a file. -/
def Entry.file? : Entry → Option Place
  | file place => some place
  | shut _ => none

/-- The place of a folder that cannot be opened. -/
def Entry.shut? : Entry → Option Place
  | file _ => none
  | shut place => some place

mutual

/-- What a walk comes upon in a tree at `place`, without what `skip` leaves out; folders where
`isShut` holds cannot be opened. -/
def entriesAt (skip isShut : Place → Bool) (place : Place) : Tree → List Entry
  | .file _ => [.file place]
  | .link _ => []
  | .folder entries =>
    if isShut place then [.shut place] else entriesIn skip isShut place entries

/-- What a walk comes upon in the members of a folder at `place`. -/
def entriesIn (skip isShut : Place → Bool) (place : Place) : List (String × Tree) → List Entry
  | [] => []
  | (name, child) :: rest =>
    (if skip (place ++ [name]) then [] else entriesAt skip isShut (place ++ [name]) child) ++
      entriesIn skip isShut place rest

end

/-- The path of a place below a root. -/
def pathOf (root : Path) (place : Place) : Path :=
  if place.isEmpty then root else root.join (Path.ofNames place)

/-- Whether a file is wanted. -/
def includes (options : Options) (path : Path) : Bool :=
  options.extensions.contains path.extension

/-- The finding for what cannot be read. -/
def failure (root path : Path) (fault : FileFault) : Finding :=
  .fileLevel (path.relativeTo root) .fileReadError
    ("cannot read directory entry: IO error for operation on " ++ path.text ++ ": " ++
      fault.message)

/-- The paths of the files that a walk yields, and the findings for what cannot be read. A folder
with too long a path cannot be opened. -/
def collect (options : Options) (root : Path) : Except FileFault Tree → List Path × List Finding
  | .ok tree =>
    let found := entriesAt (isExcluded options) (fun place => (pathOf root place).isTooLong) [] tree
    (((found.filterMap Entry.file?).map (pathOf root)).filter (includes options),
      (found.filterMap Entry.shut?).map fun place => failure root (pathOf root place) .nameTooLong)
  | .error fault => ([], [failure root root fault])

end DesignTokens.Walk
