import DesignTokens.Character.Category
import DesignTokens.Character.Letter
import DesignTokens.Character.Property
import DesignTokens.Character.RangeTable.Algebra

/-! # Classes of characters

The classes that texts are cut by: blanks, letters and digits, characters of words, characters of
identifiers. Each class answers from a short rule below code point 128 and from the standard's
tables above.

## Main definitions

* `Character.isBlank` - white space
* `Character.isAlphabetic`, `Character.isNumeric`, `Character.isAlphanumeric`
* `Character.wordTable`, `Character.isWord` - the characters of which words are made, where a word
  boundary is wanted
* `Character.isIdentifierStart`, `Character.isIdentifierPart` - the characters of names
-/

namespace DesignTokens.Character

/-- White space: the characters with the standard's property of that name. -/
def isBlank (c : Char) : Bool :=
  let n := c.toNat
  if n < 128 then n = 0x20 || (0x09 ≤ n && n ≤ 0x0D)
  else
    n = 0x85 || n = 0xA0 || n = 0x1680 || (0x2000 ≤ n && n ≤ 0x200A) || n = 0x2028 || n = 0x2029 ||
      n = 0x202F || n = 0x205F || n = 0x3000

/-- Letters and letter-like marks. -/
def isAlphabetic (c : Char) : Bool :=
  if c.toNat < 128 then c.isAlpha else Letter.alphabetic.contains c

/-- Numbers of any kind: decimal digits, number letters and others such as fractions. -/
def isNumeric (c : Char) : Bool :=
  if c.toNat < 128 then c.isDigit else Letter.numeric.contains c

/-- Letters and numbers. -/
def isAlphanumeric (c : Char) : Bool :=
  isAlphabetic c || isNumeric c

/-- The characters of words: letters, marks, decimal digits, connecting punctuation such as the
underscore, and the two joiners. Like patterns they go by edition 16.0 of the standard. -/
def wordTable : RangeTable :=
  .unionAll
    [Property.alphabetic.table, Category.nonspacingMarkTable, Category.spacingMarkTable,
     Category.enclosingMarkTable, Category.decimalNumberTable,
     Category.connectorPunctuationTable, Property.joinControl.table]

/-- Whether a character is one of words. -/
def isWord (c : Char) : Bool :=
  if c.toNat < 128 then c.isAlphanum || c = '_' else wordTable.contains c

/-- The characters an identifier may start with. -/
def isIdentifierStart (c : Char) : Bool :=
  isAlphabetic c || c = '_' || c = '$'

/-- The characters an identifier may go on with. -/
def isIdentifierPart (c : Char) : Bool :=
  isAlphanumeric c || c = '_' || c = '$'

end DesignTokens.Character
