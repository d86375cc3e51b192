import DesignTokens.Names
import DesignTokens.Text.Utf8

/-! # Trees of files

A tree is a file, a link or a folder of named trees. A place in a tree is the list of names that
lead to it.

## Main definitions

* `Tree` - what stands at a place
* `Tree.get?`, `Tree.put`, `Tree.erase` - reading and changing a tree at a place
* `Tree.plant` - a tree with the folders on the way to a place
* `Tree.leaves` - the files and links of a tree with their places
* `Tree.targets` - what the links of a tree refer to
-/

namespace DesignTokens

/-- The names that lead to a place in a tree. -/
abbrev Place := List String

/-- What stands at a place. -/
inductive Tree where
  | file (bytes : Bytes)
  /-- A reference to the path `target`. -/
  | link (target : String)
  /-- The named members, in increasing order of the names. -/
  | folder (entries : List (String × Tree))
  deriving Inhabited

namespace Tree

/-- The members of a folder. -/
def entries : Tree → ByName Tree
  | folder entries => entries
  | _ => []

/-- Whether a tree is a folder. -/
def isFolder : Tree → Bool
  | folder _ => true
  | _ => false

/-- Whether a tree is a file. -/
def isFile : Tree → Bool
  | file _ => true
  | _ => false

/-- What stands at a place. -/
def get? (tree : Tree) : Place → Option Tree
  | [] => some tree
  | name :: place => (ByName.get? name tree.entries).bind (get? · place)

/-- Changes the members of the folder at a place; where no folder stands nothing changes. -/
def alterFolder (change : ByName Tree → ByName Tree) (tree : Tree) : Place → Tree
  | [] =>
    match tree with
    | folder entries => folder (change entries)
    | other => other
  | name :: place =>
    match tree with
    | folder entries =>
      match ByName.get? name entries with
      | some child => folder (ByName.insert name (alterFolder change child place) entries)
      | none => folder entries
    | other => other

/-- A tree with `child` under a name in the folder at a place. -/
def put (tree : Tree) (place : Place) (name : String) (child : Tree) : Tree :=
  alterFolder (ByName.insert name child) tree place

/-- A tree without the member with a name in the folder at a place. -/
def erase (tree : Tree) (place : Place) (name : String) : Tree :=
  alterFolder (List.filter (·.1 ≠ name)) tree place

/-- A tree with `child` at a place. Folders that are missing on the way are made, and an empty
folder does not take the place of one that is there. -/
def plant (child : Tree) : Place → Option Tree → Tree
  | [], old =>
    match child, old with
    | folder [], some (folder entries) => folder entries
    | child, _ => child
  | name :: place, old =>
    folder (ByName.alter name (plant child place) ((old.map entries).getD []))

mutual

/-- The files and links of a tree with their places, which are put after `place`. -/
def leavesAt (place : Place) : Tree → List (Place × Tree)
  | folder entries => leavesIn place entries
  | leaf => [(place, leaf)]

/-- The files and links of the members of a folder. -/
def leavesIn (place : Place) : List (String × Tree) → List (Place × Tree)
  | [] => []
  | (name, child) :: rest => leavesAt (place ++ [name]) child ++ leavesIn place rest

end

/-- The files and links of a tree with their places. -/
def leaves (tree : Tree) : List (Place × Tree) :=
  leavesAt [] tree

/-- What a link refers to. -/
def target? : Tree → Option String
  | link target => some target
  | _ => none

/-- What the links of a tree refer to. -/
def targets (tree : Tree) : List String :=
  tree.leaves.filterMap (·.2.target?)

end Tree

end DesignTokens
