/-! # Range tables

A property of characters is kept as the increasing list of the code point ranges that have it.
Tables are stored packed: a text of numbers in base 36, two for each range, the first the number
of code points skipped since the range before and the second the number of code points the range
adds to its first.

## Main definitions

* `RangeTable` - a set of code points, as ranges in increasing order
* `RangeTable.contains` - membership, which stops at the first range past the code point
* `RangeTable.ofPacked` - the table a packed text stands for
-/

namespace DesignTokens

/-- A set of code points: inclusive ranges in increasing order. -/
structure RangeTable where
  ranges : List (Nat × Nat)
  deriving Repr, DecidableEq, Inhabited

namespace RangeTable

/-- Whether `n` lies in one of the ranges, which are in increasing order. -/
def containsIn : List (Nat × Nat) → Nat → Bool
  | [], _ => false
  | (lo, hi) :: rest, n => if n < lo then false else n ≤ hi || containsIn rest n

/-- Whether the table has a code point. -/
def has (table : RangeTable) (n : Nat) : Bool :=
  containsIn table.ranges n

/-- Whether the table has the code point of `c`. -/
def contains (table : RangeTable) (c : Char) : Bool :=
  table.has c.toNat

/-- The value of a digit in base 36: `0` to `9`, then `a` to `z`. -/
def digitValue (c : Char) : Nat :=
  if c.isDigit then c.toNat - '0'.toNat else c.toNat - 'a'.toNat + 10

/-- The numbers in base 36 that a text holds, divided by blanks and line ends. `pending` is the
part of a number already read. -/
def numbersFrom (pending : Option Nat) : List Char → List Nat
  | [] => pending.toList
  | c :: rest =>
    if c = ' ' ∨ c = '\n' then pending.toList ++ numbersFrom none rest
    else numbersFrom (some (pending.getD 0 * 36 + digitValue c)) rest

/-- The numbers of a packed text. -/
def numbers (packed : String) : List Nat :=
  numbersFrom none packed.toList

/-- Reads pairs of a gap and an extent as ranges that start at or after `start`. -/
def rangesFrom (start : Nat) : List Nat → List (Nat × Nat)
  | gap :: extent :: rest =>
    (start + gap, start + gap + extent) :: rangesFrom (start + gap + extent + 1) rest
  | _ => []

/-- The table a packed text stands for. -/
def ofPacked (packed : String) : RangeTable :=
  ⟨rangesFrom 0 (numbers packed)⟩

end RangeTable

end DesignTokens
