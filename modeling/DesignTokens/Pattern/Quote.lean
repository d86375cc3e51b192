import DesignTokens.Pattern.Reader

/-! # Texts as patterns

Every text has a pattern of its own: the characters that mean something in patterns are escaped in
it. A word boundary can be asked for on either side.

## Main definitions

* `Pattern.quote` - the pattern of a text
* `Pattern.quoteBetween` - the pattern of a text with boundaries around it
-/

namespace DesignTokens.Pattern

/-- The pattern of a text. -/
def quote (t : Text) : Text :=
  t.flatMap fun c => if isMeta c then ['\\', c] else [c]

/-- The pattern of a word boundary, if one is wanted. -/
def quoteBoundary (wanted : Bool) : Text :=
  if wanted then ['\\', 'b'] else []

/-- The pattern of a text with a word boundary in front of it if `lead` and one behind it if
`trail`. -/
def quoteBetween (lead trail : Bool) (t : Text) : Text :=
  quoteBoundary lead ++ quote t ++ quoteBoundary trail

end DesignTokens.Pattern
