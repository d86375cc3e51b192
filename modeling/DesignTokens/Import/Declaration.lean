import DesignTokens.Names
import DesignTokens.Text.Word

/-! # Declared names

The names that a text declares itself: variables, also those of destructuring patterns, functions
and classes. Declarations are recognised by their first word, wherever it stands.

## Main definitions

* `Declaration.splitTopLevel` - the parts of a text between separators outside all brackets
* `Declaration.enclosed?` - the text up to the closing partner of a bracket
* `Declaration.patternNames` - the names that the body of a destructuring pattern binds
* `Declaration.declaredNames` - all names that a text declares
-/

namespace DesignTokens.Declaration

open Character Text

/-! ### Brackets -/

/-- Opening brackets of any kind. -/
def isOpening (c : Char) : Bool :=
  c = '{' || c = '[' || c = '('

/-- Closing brackets of any kind. -/
def isClosing (c : Char) : Bool :=
  c = '}' || c = ']' || c = ')'

/-- The depth of brackets after a character; a closing bracket too many does not count. -/
def depthAfter (depth : Nat) (c : Char) : Nat :=
  if isOpening c then depth + 1 else if isClosing c then depth - 1 else depth

/-- The parts of a text between the occurrences of `separator` at depth zero, where the text starts
at depth `depth`. -/
def splitTopLevelFrom (separator : Char) (depth : Nat) : Text → List Text
  | [] => [[]]
  | c :: rest =>
    if !isOpening c && !isClosing c && c = separator && depth = 0 then
      [] :: splitTopLevelFrom separator depth rest
    else consFirst c (splitTopLevelFrom separator (depthAfter depth c) rest)

/-- The parts of a text between the occurrences of `separator` outside all brackets. -/
def splitTopLevel (separator : Char) (t : Text) : List Text :=
  splitTopLevelFrom separator 0 t

/-- The text up to the bracket that closes all of the `depth` open ones. -/
def enclosedFrom? (depth : Nat) : Text → Option Text
  | [] => none
  | c :: rest =>
    if isClosing c && depth ≤ 1 then some []
    else (enclosedFrom? (depthAfter depth c) rest).map (c :: ·)

/-- The text up to the closing partner of a bracket just read. -/
def enclosed? (t : Text) : Option Text :=
  enclosedFrom? 1 t

/-! ### Destructuring patterns -/

/-- A text without the dots of a rest element in front. -/
def dropDots : Text → Text
  | '.' :: '.' :: '.' :: rest => dropDots rest
  | t => t

/-- The text that an element of a pattern binds: what follows its key, if it has one, without its
default. -/
def bindingTarget (element : Text) : Text :=
  let element := dropDots (trim element)
  let target :=
    match splitTopLevel ':' element with
    | _ :: value :: _ => value
    | _ => element
  trim ((splitTopLevel '=' target).headD [])

/-- The body of a nested pattern. -/
def nestedBody? (target : Text) : Option Text :=
  match target with
  | [] => none
  | c :: rest =>
    if c = '{' || c = '[' then
      match rest.reverse with
      | [] => none
      | d :: body => if d = '}' || d = ']' then some body.reverse else none
    else none

/-- The names that the body of a pattern binds, for patterns nested less than `depth` deep. -/
def patternNamesWithin : Nat → Text → List Text
  | 0, _ => []
  | depth + 1, body =>
    (splitTopLevel ',' body).flatMap fun element =>
      let target := bindingTarget element
      match nestedBody? target with
      | some inner => patternNamesWithin depth inner
      | none => if isIdentifier target then [target] else []

/-- The names that the body of a destructuring pattern binds. A nested pattern is shorter than the
one around it, so that the length bounds the depth. -/
def patternNames (body : Text) : List Text :=
  patternNamesWithin (body.length + 1) body

/-! ### Declarations -/

/-- What a declaration declares: the name of it, or the text after the bracket that opens a
destructuring pattern. -/
inductive Found where
  | name (name : Text)
  | pattern (body : Text)
  deriving Repr, DecidableEq

/-- The characters a declared name may start with. -/
def startsName (c : Char) : Bool :=
  c.isAlpha || c = '_' || c = '$'

/-- The characters a declared name may go on with. -/
def continuesName (c : Char) : Bool :=
  isWord c || c = '$'

/-- White space, at least one character of it, and a name; the second part is what follows. -/
def spacedName? (t : Text) : Option (Found × Text) :=
  match t with
  | [] => none
  | b :: _ =>
    if !isBlank b then none
    else
      match t.dropWhile isBlank with
      | [] => none
      | c :: rest =>
        if startsName c then
          some (.name (c :: rest.takeWhile continuesName), rest.dropWhile continuesName)
        else none

/-- What follows the first word of a declaration of variables. -/
def variables? (t : Text) : Option (Found × Text) :=
  match t.dropWhile isBlank with
  | '{' :: rest => some (.pattern rest, rest)
  | '[' :: rest => some (.pattern rest, rest)
  | _ => spacedName? t

/-- What follows the first word of a declaration of a function, which may have a star. -/
def function? (t : Text) : Option (Found × Text) :=
  match t.dropWhile isBlank with
  | '*' :: rest => spacedName? rest
  | _ => spacedName? t

/-- The declaration at the beginning of a text, and what follows it. -/
def read? (t : Text) : Option (Found × Text) :=
  ((after? "const".toList t).bind variables?).or <|
    ((after? "let".toList t).bind variables?).or <|
      ((after? "var".toList t).bind variables?).or <|
        ((after? "function".toList t).bind function?).or <|
          (after? "class".toList t).bind spacedName?

/-- The declarations of a text that follows the character `before`. The first `skip` characters
belong to a declaration already read. -/
def declarationsFrom (skip : Nat) (before : Option Char) : Text → List Found
  | [] => []
  | c :: rest =>
    match skip with
    | skip + 1 => declarationsFrom skip (some c) rest
    | 0 =>
      if isWordSide before then declarationsFrom 0 (some c) rest
      else
        match read? (c :: rest) with
        | some (found, after) =>
          found :: declarationsFrom (rest.length - after.length) (some c) rest
        | none => declarationsFrom 0 (some c) rest

/-- The names that a declaration declares. -/
def Found.names : Found → List Text
  | name n => [n]
  | pattern body =>
    match enclosed? body with
    | some inner => patternNames inner
    | none => []

/-- All names that a text declares. -/
def declaredNames (content : Text) : Names :=
  Names.ofList (((declarationsFrom 0 none content).flatMap Found.names).map String.ofList)

end DesignTokens.Declaration
