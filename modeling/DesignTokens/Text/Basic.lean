import DesignTokens.Character.Class

/-! # Texts

A text is the list of its characters. Offsets into a text count the bytes of its UTF-8 form, so
that they agree with what editors and other tools report.

## Main definitions

* `Text` - the characters of a file, a line or a name, in order
* `Text.byteSize`, `Text.takeBytes` - offsets in bytes
* `Text.after?` - what follows a given beginning
* `Text.pieces` - the parts of a text between the occurrences of a separator
* `Text.trim` - a text without the blanks around it
* `Text.words` - the parts of a text between blanks
* `Text.isIdentifier` - whether a text is an identifier
* `Text.lt` - the order of texts by code points
-/

namespace DesignTokens

/-- A text: its characters in order. -/
abbrev Text := List Char

namespace Text

/-! ### Sizes and offsets -/

/-- The number of bytes of the UTF-8 form of a text. -/
def byteSize : Text → Nat
  | [] => 0
  | c :: rest => c.utf8Size + byteSize rest

/-- The characters that lie wholly within the first `n` bytes. -/
def takeBytes : Nat → Text → Text
  | _, [] => []
  | n, c :: rest => if c.utf8Size ≤ n then c :: takeBytes (n - c.utf8Size) rest else []

@[simp] theorem byteSize_nil : byteSize [] = 0 := rfl

@[simp] theorem byteSize_append (s t : Text) : byteSize (s ++ t) = byteSize s + byteSize t := by
  induction s with
  | nil => simp
  | cons c s ih => simp [byteSize, ih, Nat.add_assoc]

/-! ### Parts of a text -/

/-- What follows `start` in a text that begins with it. -/
def after? : Text → Text → Option Text
  | [], t => some t
  | _ :: _, [] => none
  | c :: start, d :: t => if c = d then after? start t else none

/-- Whether `part` occurs somewhere in a text. -/
def hasPart (part : Text) : Text → Bool
  | [] => part.isEmpty
  | c :: rest => part.isPrefixOf (c :: rest) || hasPart part rest

/-- Puts a character in front of the first of several parts. -/
def consFirst (c : Char) : List Text → List Text
  | [] => [[c]]
  | part :: parts => (c :: part) :: parts

/-- The parts of a text between the occurrences of `separator`; there is always at least one. -/
def pieces (separator : Char) : Text → List Text
  | [] => [[]]
  | c :: rest =>
    if c = separator then [] :: pieces separator rest else consFirst c (pieces separator rest)

/-- The text before and after the last occurrence of `c`. -/
def splitLast? (c : Char) : Text → Option (Text × Text)
  | [] => none
  | d :: rest =>
    match splitLast? c rest with
    | some (before, after) => some (d :: before, after)
    | none => if d = c then some ([], rest) else none

/-- The text before and after the first occurrence of `c`. -/
def splitFirst? (c : Char) : Text → Option (Text × Text)
  | [] => none
  | d :: rest =>
    if d = c then some ([], rest)
    else (splitFirst? c rest).map fun (before, after) => (d :: before, after)

/-! ### Blanks -/

/-- A text without the characters of a class at its end. -/
def dropEndWhile (p : Char → Bool) (t : Text) : Text :=
  (t.reverse.dropWhile p).reverse

/-- A text without the blanks at its start. -/
def trimStart (t : Text) : Text :=
  t.dropWhile Character.isBlank

/-- A text without the blanks at its end. -/
def trimEnd (t : Text) : Text :=
  dropEndWhile Character.isBlank t

/-- A text without the blanks around it. -/
def trim (t : Text) : Text :=
  trimEnd (trimStart t)

/-- The parts of a text between blanks, with `word` the part already read, last character first. -/
def wordsFrom (word : Text) : Text → List Text
  | [] => if word.isEmpty then [] else [word.reverse]
  | c :: rest =>
    if Character.isBlank c then
      if word.isEmpty then wordsFrom [] rest else word.reverse :: wordsFrom [] rest
    else wordsFrom (c :: word) rest

/-- The non-empty parts of a text between blanks. -/
def words (t : Text) : List Text :=
  wordsFrom [] t

/-! ### Names and order -/

/-- Whether a text is an identifier: a letter, an underscore or a dollar sign, then any number of
these and of digits. -/
def isIdentifier : Text → Bool
  | [] => false
  | c :: rest => Character.isIdentifierStart c && rest.all Character.isIdentifierPart

/-- The order of texts by the code points of their characters, which is also the order of their
UTF-8 forms. -/
def lt : Text → Text → Bool
  | _, [] => false
  | [], _ :: _ => true
  | c :: s, d :: t => c.toNat < d.toNat || (c = d && lt s t)

/-- Several texts with a separator between each and the next. -/
def joinWith (separator : Text) : List Text → Text
  | [] => []
  | [t] => t
  | t :: rest => t ++ separator ++ joinWith separator rest

end Text

end DesignTokens
