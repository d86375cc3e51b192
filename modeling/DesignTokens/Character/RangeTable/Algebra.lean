import DesignTokens.Character.RangeTable

/-! # Sets of code points

The set operations on range tables. Tables stay in their one form: ranges in increasing order, no
two of which touch. The code points of surrogates are no characters, so the neighbour of the
character before them is the one after them; ranges on both sides of that gap do not touch.

## Main definitions

* `RangeTable.ofRanges` - the table of ranges in any order
* `RangeTable.union`, `RangeTable.inter`, `RangeTable.diff`, `RangeTable.symmDiff`
* `RangeTable.complement` - what lies between the ranges of a table
-/

namespace DesignTokens.RangeTable

/-- The greatest code point. -/
def maxCode : Nat := 0x10FFFF

/-- The code point of the next character. -/
def nextCode (n : Nat) : Nat :=
  if n = 0xD7FF then 0xE000 else n + 1

/-- The code point of the character before. -/
def previousCode (n : Nat) : Nat :=
  if n = 0xE000 then 0xD7FF else n - 1

/-- Joins ranges that overlap or touch. The ranges come in order of their first code points, and
`current` is the range that is still growing. -/
def coalesce (current : Nat × Nat) : List (Nat × Nat) → List (Nat × Nat)
  | [] => [current]
  | (lo, hi) :: rest =>
    if lo ≤ current.2 + 1 then coalesce (current.1, max current.2 hi) rest
    else current :: coalesce (lo, hi) rest

/-- The table of ranges in any order. -/
def ofRanges (ranges : List (Nat × Nat)) : RangeTable :=
  match ranges.mergeSort fun a b => decide (a.1 ≤ b.1) with
  | [] => ⟨[]⟩
  | first :: rest => ⟨coalesce first rest⟩

/-- The table of one range. -/
def single (lo hi : Nat) : RangeTable :=
  ⟨[(lo, hi)]⟩

/-- The table of all code points. -/
def full : RangeTable :=
  single 0 maxCode

/-- The code points of either table. -/
def union (a b : RangeTable) : RangeTable :=
  ofRanges (a.ranges ++ b.ranges)

/-- The code points of any table of a list. -/
def unionAll (tables : List RangeTable) : RangeTable :=
  ofRanges (tables.flatMap (·.ranges))

/-- The common parts of two increasing lists of ranges. -/
def interIn : List (Nat × Nat) → List (Nat × Nat) → List (Nat × Nat)
  | (a, b) :: as, (c, d) :: cs =>
    let more := if b < d then interIn as ((c, d) :: cs) else interIn ((a, b) :: as) cs
    if max a c ≤ min b d then (max a c, min b d) :: more else more
  | _, _ => []
termination_by as cs => as.length + cs.length

/-- The code points of both tables. -/
def inter (a b : RangeTable) : RangeTable :=
  ⟨interIn a.ranges b.ranges⟩

/-- What the ranges of one increasing list have outside those of another. -/
def diffIn : List (Nat × Nat) → List (Nat × Nat) → List (Nat × Nat)
  | (a, b) :: as, (c, d) :: cs =>
    if d < a then diffIn ((a, b) :: as) cs
    else if b < c then (a, b) :: diffIn as ((c, d) :: cs)
    else
      let more := if d < b then diffIn ((nextCode d, b) :: as) cs else diffIn as ((c, d) :: cs)
      if a < c then (a, previousCode c) :: more else more
  | as, _ => as
termination_by as cs => as.length + cs.length

/-- The code points of `a` that are not in `b`. -/
def diff (a b : RangeTable) : RangeTable :=
  ⟨diffIn a.ranges b.ranges⟩

/-- The code points of one table only. -/
def symmDiff (a b : RangeTable) : RangeTable :=
  (a.union b).diff (a.inter b)

/-- What lies between the ranges of an increasing list, from the end `last` of the range before
them on. Between two ranges on both sides of the surrogates no character lies; what is left there
are the characters next to the gap. -/
def gaps (last : Nat) : List (Nat × Nat) → List (Nat × Nat)
  | [] => if last < maxCode then [(nextCode last, maxCode)] else []
  | (lo, hi) :: rest =>
    (min (nextCode last) (previousCode lo), max (nextCode last) (previousCode lo)) :: gaps hi rest

/-- The code points outside a table. -/
def complement (table : RangeTable) : RangeTable :=
  match table.ranges with
  | [] => full
  | (lo, hi) :: rest =>
    ⟨if lo = 0 then gaps hi rest else (0, previousCode lo) :: gaps hi rest⟩

end DesignTokens.RangeTable
