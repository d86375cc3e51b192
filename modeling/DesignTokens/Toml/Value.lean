import DesignTokens.Text.Basic

/-! # Values of TOML documents

## Main definitions

* `Toml.Fault` - why a text is not a document
* `Toml.Origin` - how a table came into a document, on which its later extension depends
* `Toml.Value` - a value of a document
* `Toml.Value.update` - a table changed at the end of a path
-/

namespace DesignTokens.Toml

/-- Why a text is not a document. -/
inductive Fault where
  | character
  | escape
  | stringUnclosed
  | scalar
  | key
  | header
  | lineEnd
  | arrayUnclosed
  | tableUnclosed
  | tooDeep
  | duplicateKey
  | notATable
  deriving Repr, DecidableEq

/-- How a table came into a document. -/
inductive Origin where
  /-- By a header of its own. -/
  | header
  /-- As part of the path of another header. -/
  | headerPath
  /-- As part of a dotted key. -/
  | dottedKey
  /-- Written out in braces. -/
  | inline
  deriving Repr, DecidableEq

/-- A value of a document. Of numbers with a fraction nothing is kept. -/
inductive Value where
  | string (s : String)
  /-- A whole number; nothing if its digits are none of its base, which shows only when the number
  is wanted. -/
  | integer (n : Option Int)
  | fraction
  | boolean (b : Bool)
  /-- A date, a time of day or both, in one spelling. -/
  | date (text : String)
  /-- An array; `ofTables` if it was made by headers in double brackets. -/
  | array (ofTables : Bool) (items : List Value)
  | table (origin : Origin) (entries : List (String × Value))
  deriving Repr, Inhabited

/-- The entries of a table. -/
abbrev Entries := List (String × Value)

namespace Entries

/-- The entries with the one of a key changed, where `change` sees the value there is and gives the
value there shall be. A new entry comes last. -/
def alter (key : String) (change : Option Value → Except Fault Value) :
    Entries → Except Fault Entries
  | [] => do return [(key, ← change none)]
  | (other, value) :: rest =>
    if key = other then do return (other, ← change (some value)) :: rest
    else do return (other, value) :: (← alter key change rest)

/-- The entries with one more, whose key must be new. -/
def insertNew (key : String) (value : Value) (entries : Entries) : Except Fault Entries :=
  alter key (fun
    | none => .ok value
    | some _ => .error .duplicateKey) entries

end Entries

/-- The last item of a list changed. -/
def alterLast (change : Value → Except Fault Value) : List Value → Except Fault (List Value)
  | [] => .error .notATable
  | [item] => do return [← change item]
  | item :: rest => do return item :: (← alterLast change rest)

/-- Changes the table at the end of a path, which `dotted` says is that of a dotted key. Tables on
the way that are not there yet are made. A header in double brackets stands for the last table of
its array. Tables in braces are closed, and so are tables with a header of their own to dotted
keys. -/
def update (dotted : Bool) (change : Origin → Entries → Except Fault Value) :
    List String → Origin → Entries → Except Fault Value
  | [], origin, entries => change origin entries
  | key :: path, origin, entries => do
    let made : Origin := if dotted then .dottedKey else .headerPath
    let entries ← Entries.alter key (fun
      | none => update dotted change path made []
      -- A path leads into the last table of an array.
      | some (.array true items) =>
        alterLast (fun
          | .table origin entries => update dotted change path origin entries
          | _ => .error .notATable) items |>.map (.array true)
      -- An inline table is complete as it is written.
      | some (.table .inline _) => .error .duplicateKey
      | some (.table .header entries) =>
        if dotted then .error .duplicateKey else update dotted change path .header entries
      | some (.table origin entries) => update dotted change path origin entries
      | some _ => .error .notATable) entries
    return .table origin entries

end DesignTokens.Toml
