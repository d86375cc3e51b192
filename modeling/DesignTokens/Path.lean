import DesignTokens.Names

/-! # Paths

A path is a text; what counts of it are its steps. Slashes that repeat or end a path and points that
stand alone count for nothing, but for a point in front. Paths are equal and ordered by their steps,
so that a folder's files come before a file whose name continues the folder's.

## Main definitions

* `Path` - a path, and `Path.steps` its steps
* `Path.lt` - the order of paths by their steps
* `Path.extension` - what follows the last point of the last name
* `Path.join`, `Path.parent`, `Path.relativeTo?` - paths put together and taken apart
* `Path.isTooLong`, `Path.isTooLongName`, `Path.hasNull` - what no file can be reached by
* `normalizeExtension` - an extension without points in front and in small letters
-/

namespace DesignTokens

/-- A path as it is written. -/
structure Path where
  text : String
  deriving Repr, DecidableEq, Inhabited

namespace Path

/-- A step of a path. -/
inductive Step where
  | root
  | here
  | up
  | name (own : String)
  deriving Repr, DecidableEq, Inhabited

/-- The step that a part of a path between slashes stands for, unless it stands for none. -/
def Step.ofPart? (part : Text) : Option Step :=
  if part.isEmpty || part = ['.'] then none
  else if part = ['.', '.'] then some .up
  else some (.name (String.ofList part))

/-- The steps of a path. -/
def steps (p : Path) : List Step :=
  let parts := Text.pieces '/' p.text.toList
  let later := parts.filterMap Step.ofPart?
  match p.text.toList with
  | '/' :: _ => .root :: later
  | _ => if parts.head? = some ['.'] then .here :: later else later

/-- The place of a kind of step in the order of steps. -/
def Step.rank : Step → Nat
  | root => 0
  | here => 1
  | up => 2
  | name _ => 3

/-- The order of steps: names come last, by their code points. -/
def Step.lt (a b : Step) : Bool :=
  match a, b with
  | name x, name y => nameLt x y
  | _, _ => a.rank < b.rank

/-- The order of lists of steps. -/
def ltSteps : List Step → List Step → Bool
  | _, [] => false
  | [], _ :: _ => true
  | a :: s, b :: t => a.lt b || (a = b && ltSteps s t)

/-- The order of paths by their steps. -/
def lt (p q : Path) : Bool :=
  ltSteps p.steps q.steps

/-- Whether two paths have the same steps. -/
def same (p q : Path) : Bool :=
  p.steps = q.steps

/-- The last step of a path, if it is a name. -/
def fileName? (p : Path) : Option String :=
  match p.steps.getLast? with
  | some (.name name) => some name
  | _ => none

/-- What follows the last point of a name, unless that point is the first character. -/
def extensionOfName? (name : String) : Option String :=
  match Text.splitLast? '.' name.toList with
  | some ([], _) => none
  | some (_, extension) => some (String.ofList extension)
  | none => none

/-- A path with another one after it. A path from the root takes the place of the one before. -/
def join (p q : Path) : Path :=
  if q.text.toList.head? = some '/' || p.text.isEmpty then q
  else if p.text.toList.getLast? = some '/' then ⟨p.text ++ q.text⟩
  else ⟨p.text ++ "/" ++ q.text⟩

/-- The path of steps that are names. -/
def ofNames (names : List String) : Path :=
  ⟨String.intercalate "/" names⟩

/-- The text of a step. -/
def Step.text : Step → String
  | root => "/"
  | here => "."
  | up => ".."
  | name own => own

/-- The parts of a path, the last one first, without those at its end that count for nothing. The
first part of the path stays. -/
def dropIdle : List Text → List Text
  | part :: next :: rest =>
    if part.isEmpty || part = ['.'] then dropIdle (next :: rest) else part :: next :: rest
  | parts => parts

/-- The folder that the last step of a path is in; the point if nothing else is left. -/
def parent (p : Path) : Path :=
  match dropIdle (Text.pieces '/' p.text.toList).reverse with
  | _ :: next :: rest =>
    match dropIdle (next :: rest) with
    | [[]] => ⟨"/"⟩
    | parts => ofNames (parts.reverse.map String.ofList)
  | _ => ⟨"."⟩

/-- What follows the steps of `base` in a path that begins with them. -/
def relativeTo? (p base : Path) : Option Path :=
  if base.steps.isPrefixOf p.steps then
    some (ofNames ((p.steps.drop base.steps.length).map Step.text))
  else none

/-- What follows `base` in a path; a path that does not begin with it stays. -/
def relativeTo (p base : Path) : Path :=
  (p.relativeTo? base).getD p

/-- The number of bytes that the text of a path stays below. -/
def sizeLimit : Nat := 4096

/-- Whether a path is too long to be followed. -/
def isTooLong (p : Path) : Bool :=
  sizeLimit ≤ p.text.utf8ByteSize

/-- The number of bytes that a name has at most. -/
def maxNameSize : Nat := 255

/-- Whether a name is too long to be looked up in a folder. -/
def isTooLongName (name : String) : Bool :=
  maxNameSize < name.utf8ByteSize

/-- Whether the character with the code zero, which ends texts elsewhere, stands in a path. -/
def hasNull (p : Path) : Bool :=
  p.text.toList.contains '\x00'

/-- Whether the last steps of a path are those of another. -/
def endsWith (p tail : Path) : Bool :=
  tail.steps.isSuffixOf p.steps

end Path

/-- An extension without blanks around it, without points in front and with ASCII letters made
small. -/
def normalizeExtension (extension : String) : String :=
  String.ofList ((((Text.trim extension.toList).dropWhile (· = '.'))).map Char.toLower)

/-- The extension of the last name of a path in its normal form, empty if there is none. -/
def Path.extension (p : Path) : String :=
  ((p.fileName?.bind extensionOfName?).map normalizeExtension).getD ""

end DesignTokens
