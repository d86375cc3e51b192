import DesignTokens.Pattern.CharClass
import DesignTokens.Text.Utf8

/-! # Characters as ranges of bytes

The characters of a range of code points are, in their UTF-8 form, the words of a few sequences of
byte ranges. A range is cut where the number of bytes changes, at the surrogates, and so that in
each part the last bytes run through all their values or the first bytes stay the same.

## Main definitions

* `Pattern.ByteRange` - the bytes that may stand at one place
* `Pattern.ByteRange.sequences` - the sequences of byte ranges of a class
-/

namespace DesignTokens.Pattern

/-- The bytes from one to another. -/
structure ByteRange where
  lo : UInt8
  hi : UInt8
  deriving Repr, DecidableEq

namespace ByteRange

/-- The code points with the same number of bytes, in order and without the surrogates. -/
def sameLength : List (Nat × Nat) :=
  [(0, 0x7F), (0x80, 0x7FF), (0x800, 0xD7FF), (0xE000, 0xFFFF), (0x10000, 0x10FFFF)]

/-- Cuts a range at the ends of blocks: first the smallest blocks at both ends, then larger ones
in the middle. -/
def alignTo : List Nat → Nat → Nat → List (Nat × Nat)
  | [], lo, hi => if lo ≤ hi then [(lo, hi)] else []
  | block :: larger, lo, hi =>
    if hi < lo then []
    else if lo / block = hi / block then [(lo, hi)]
    else
      let from' := (lo + block - 1) / block * block
      let until' := (hi + 1) / block * block
      (if lo < from' then [(lo, from' - 1)] else []) ++ alignTo larger from' (until' - 1) ++
        (if until' ≤ hi then [(until', hi)] else [])

/-- The byte ranges between the bytes of two characters. -/
def spell (lo hi : Nat) : List ByteRange :=
  List.zipWith ByteRange.mk (String.utf8EncodeChar (Char.ofNat lo))
    (String.utf8EncodeChar (Char.ofNat hi))

/-- The sequences of byte ranges of a class, in order. -/
def sequences (members : CharClass) : List (List ByteRange) :=
  members.ranges.flatMap fun (lo, hi) =>
    sameLength.flatMap fun (least, most) =>
      (alignTo [64, 4096, 262144] (max lo least) (min hi most)).map fun (lo, hi) => spell lo hi

end ByteRange

end DesignTokens.Pattern
