import DesignTokens.Text.Basic

/-! # Sets of names and tables by name

Names are kept in the order of their code points, each once.

## Main definitions

* `Names` - a set of names, as the increasing list of its members
* `ByName` - values filed under names, in increasing order of the names
-/

namespace DesignTokens

/-- Whether one name comes before another in the order of code points. -/
def nameLt (a b : String) : Bool :=
  Text.lt a.toList b.toList

/-- A set of names: its members in increasing order. -/
abbrev Names := List String

namespace Names

/-- A set with one more member. -/
def insert (name : String) : Names → Names
  | [] => [name]
  | other :: rest =>
    if name = other then other :: rest
    else if nameLt name other then name :: other :: rest
    else other :: insert name rest

/-- The set of the names in a list. -/
def ofList (names : List String) : Names :=
  names.foldl (fun set name => insert name set) []

/-- The members of either of two sets. -/
def union (a b : Names) : Names :=
  b.foldl (fun set name => insert name set) a

theorem mem_insert {name x : String} {set : Names} :
    x ∈ insert name set ↔ x = name ∨ x ∈ set := by
  induction set with
  | nil => simp [insert]
  | cons other rest ih =>
    simp only [insert]
    split
    · simp_all
    · split <;> simp_all; grind

end Names

/-- Values filed under names, in increasing order of the names. -/
abbrev ByName (α : Type) := List (String × α)

namespace ByName

variable {α : Type}

/-- The value filed under a name. -/
def get? (name : String) : ByName α → Option α
  | [] => none
  | (other, value) :: rest => if name = other then some value else get? name rest

/-- Files under `name` what `change` makes of the value filed there so far. -/
def alter (name : String) (change : Option α → α) : ByName α → ByName α
  | [] => [(name, change none)]
  | (other, value) :: rest =>
    if name = other then (other, change (some value)) :: rest
    else if nameLt name other then (name, change none) :: (other, value) :: rest
    else (other, value) :: alter name change rest

/-- Files a value under a name, in the place of any that was there. -/
def insert (name : String) (value : α) (table : ByName α) : ByName α :=
  alter name (fun _ => value) table

/-- The table of a list of names with values, where a later value takes the place of an earlier. -/
def ofList (entries : List (String × α)) : ByName α :=
  entries.foldl (fun table entry => insert entry.1 entry.2 table) []

end ByName

end DesignTokens
