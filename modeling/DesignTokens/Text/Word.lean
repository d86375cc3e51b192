import DesignTokens.Text.Basic

/-! # Whole words

A word boundary lies between a character of words and one that is none, an end of the text counting
as none.

## Main definitions

* `Text.boundary` - whether a word boundary lies between two neighbours
* `Text.occursAt` - whether a name stands at a place, with word boundaries where they are wanted
* `Text.findWhole` - the first place where a name stands between word boundaries
-/

namespace DesignTokens.Text

/-- Whether a neighbour of a place is a character of words; an end of the text is none. -/
def isWordSide (c : Option Char) : Bool :=
  c.any Character.isWord

/-- Whether a word boundary lies between two neighbours. -/
def boundary (before after : Option Char) : Bool :=
  isWordSide before != isWordSide after

/-- Whether `name` stands at the beginning of `t`, which follows the character `before`. A word
boundary is wanted in front of it if `lead` and behind it if `trail`. -/
def occursAt (lead trail : Bool) (name : Text) (before : Option Char) (t : Text) : Bool :=
  match after? name t with
  | none => false
  | some rest =>
    (!lead || boundary before t.head?) &&
      (!trail || boundary (name.getLast?.or before) rest.head?)

/-- The offset in bytes of the first place in `t` where `name` stands between word boundaries;
`t` follows the character `before` and starts at the offset `offset`. -/
def findWholeFrom (name : Text) (before : Option Char) (offset : Nat) : Text → Option Nat
  | [] => if occursAt true true name before [] then some offset else none
  | c :: rest =>
    if occursAt true true name before (c :: rest) then some offset
    else findWholeFrom name (some c) (offset + c.utf8Size) rest

/-- The offset in bytes of the first place where `name` stands between word boundaries. -/
def findWhole (name t : Text) : Option Nat :=
  findWholeFrom name none 0 t

end DesignTokens.Text
