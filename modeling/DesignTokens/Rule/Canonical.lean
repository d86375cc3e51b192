import DesignTokens.Names
import DesignTokens.Pattern.Quote
import DesignTokens.Text.Search
import DesignTokens.Text.Word

/-! # Canonical spellings

A table of other spellings of names, each with the canonical one. A text is brought to canonical
spelling by replacing every other spelling that stands as a whole token, the longest first.

## Main definitions

* `CanonicalNames` - a table of spellings
* `CanonicalNames.matcher` - the pattern of all spellings to replace
* `CanonicalNames.probe` - the search for spellings to replace
* `CanonicalNames.replace?` - a text with every spelling replaced
* `CanonicalNames.chain?` - an entry whose canonical spelling the table itself would change
-/

namespace DesignTokens

/-- A table of other spellings of names, each with the canonical one. -/
structure CanonicalNames where
  version : Nat
  names : ByName String
  deriving Repr, DecidableEq

namespace CanonicalNames

open Character Text

/-- The characters of tokens at the ends of a spelling: where one stands, a word boundary is
wanted. -/
def isTokenChar (c : Char) : Bool :=
  isAlphanumeric c || c = '_'

/-- Whether a spelling stands as a whole token at the beginning of `t`, which follows `before`. -/
def standsAt (spelling : Text) (before : Option Char) (t : Text) : Bool :=
  occursAt (spelling.head?.any isTokenChar) (spelling.getLast?.any isTokenChar) spelling before t

/-- The entries of a table, those with the longest spellings first. -/
def byLength (names : ByName String) : ByName String :=
  names.mergeSort fun a b => b.1.utf8ByteSize ≤ a.1.utf8ByteSize

/-- The pattern of a spelling as a whole token. -/
def tokenPattern (spelling : Text) : Text :=
  Pattern.quoteBetween (spelling.head?.any isTokenChar) (spelling.getLast?.any isTokenChar) spelling

/-- The pattern of all spellings to replace, the longest first. -/
def matcher (names : ByName String) : Text :=
  ['|'].intercalate ((byLength names).map fun entry => tokenPattern entry.1.toList)

/-- The search for spellings to replace; of those that stand at a place it takes the longest. -/
def probe (names : ByName String) : Probe Char String :=
  let entries := byLength names
  fun before t =>
    (entries.find? fun entry => standsAt entry.1.toList before t).map fun entry =>
      (entry.1.toList.length, entry.2)

/-- A text with every spelling replaced by the canonical one; nothing if there is none. -/
def replace? (table : CanonicalNames) (t : Text) : Option Text :=
  replaceAll (probe table.names) (fun _ canonical => canonical.toList) t

/-- A text in canonical spelling. -/
def apply (table : CanonicalNames) (t : Text) : Text :=
  (table.replace? t).getD t

/-- The canonical spelling of a name. -/
def canonical? (table : CanonicalNames) (spelling : String) : Option String :=
  table.names.get? spelling

/-- The first entry, by its other spelling, whose canonical spelling the table itself would
change. -/
def chain? (names : ByName String) : Option (String × String) :=
  names.find? fun entry => matches? (probe names) entry.2.toList

/-- The table without entries. -/
def empty : CanonicalNames :=
  ⟨1, []⟩

end CanonicalNames

end DesignTokens
