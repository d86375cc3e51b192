import DesignTokens.Import.Outline
import DesignTokens.Names

/-! # Import clauses

A clause says which names an import binds. One shape of clause can be edited: a single list of plain
names in braces, on one line, perhaps with a default name in front.

## Main definitions

* `Import.Shape` - why the clause of a statement cannot be edited
* `Import.Error` - an import that cannot be edited, and `Import.Error.message` its wording
* `Import.Block` - the list of names of a clause that can be edited, with the text around it
* `Import.findBlock` - the list of names to edit for a module
* `Import.boundNames` - all names that the imports of a text bind, in any shape
-/

namespace DesignTokens.Import

open Character Text

/-- Why the clause of a statement cannot be edited. -/
inductive Shape where
  | sideEffect
  | severalLines
  | noBraces
  | wholeModule
  | aliased
  | notPlain
  deriving Repr, DecidableEq

namespace Shape

/-- The wording of a reason. -/
def reason : Shape → String
  | sideEffect => "a side-effect import"
  | severalLines => "split across several lines"
  | noBraces => "not a brace import"
  | wholeModule => "a namespace import"
  | aliased => "aliased"
  | notPlain => "not a plain symbol list"

end Shape

/-- An import of a module that cannot be edited, and the line it starts on. -/
structure Error where
  module : String
  line : Nat
  shape : Shape
  deriving Repr, DecidableEq

/-- The wording of an error. -/
def Error.message (e : Error) : String :=
  "import from '" ++ e.module ++ "' at line " ++ toString e.line ++ " is " ++ e.shape.reason ++
    "; add the symbols by hand"

/-! ### The braces of a clause -/

/-- A clause cut at its first opening and its last closing brace. -/
structure Braced where
  before : Text
  inner : Text
  after : Text
  deriving Repr, DecidableEq

/-- Cuts a clause at its first opening brace and its last closing one, if these stand in this
order. -/
def braced? (clause : Text) : Option Braced :=
  match splitFirst? '{' clause with
  | none => none
  | some (before, rest) =>
    match splitLast? '}' rest with
    | none => none
    | some (inner, after) => some ⟨before, inner, after⟩

/-- Whether the word `as` stands in a text. -/
def hasAlias (inner : Text) : Bool :=
  (findWhole ['a', 's'] inner).isSome

/-- The entries of a list of names, without the blanks around them and without empty ones. -/
def listEntries (inner : Text) : List Text :=
  ((pieces ',' inner).map trim).filter (!·.isEmpty)

/-- The braces and the names of a clause that can be edited, or the first reason why it cannot. -/
def editable (clause : Option Text) : Except Shape (Braced × List Text) :=
  match clause with
  | none => .error .sideEffect
  | some clause =>
    if clause.contains '\n' then .error .severalLines
    else
      match braced? clause with
      | none => .error .noBraces
      | some b =>
        if b.inner.contains '{' || b.after.contains '{' then .error .noBraces
        else if b.before.contains '*' || b.after.contains '*' then .error .wholeModule
        else if hasAlias b.inner then .error .aliased
        else if (listEntries b.inner).all isIdentifier then .ok (b, listEntries b.inner)
        else .error .notPlain

/-! ### The list of a module -/

/-- A list of names that can be edited: the text of the file up to and with the opening brace, the
text of the list, and the text from the closing brace on. -/
structure Block where
  line : Nat
  before : Text
  inner : Text
  after : Text
  symbols : List String
  deriving Repr, DecidableEq

/-- The span of the list between the braces. -/
def Block.span (b : Block) : Span :=
  ⟨byteSize b.before, byteSize b.before + byteSize b.inner⟩

namespace Placed

/-- The list of names of a statement that can be edited. -/
def block (p : Placed) : Except Error Block :=
  match editable p.statement.clause with
  | .error shape => .error ⟨String.ofList p.statement.module, p.line, shape⟩
  | .ok (b, names) =>
    .ok ⟨p.line, p.beforeClause ++ b.before ++ ['{'], b.inner,
      '}' :: b.after ++ fromWord ++ p.statement.tail ++ p.after,
      names.map String.ofList⟩

end Placed

/-- The first list that can be edited; if there is none, the first error. -/
def firstBlock : List Placed → Except Error (Option Block)
  | [] => .ok none
  | p :: rest =>
    match p.block with
    | .ok b => .ok (some b)
    | .error e =>
      match firstBlock rest with
      | .ok (some b) => .ok (some b)
      | _ => .error e

/-- The statements that import values from a module. -/
def valueImports (content : Text) (module : String) : List Placed :=
  (statements content).filter fun p => p.statement.module = module.toList && !p.statement.isTypeOnly

/-- The list of names to edit for a module: that of its first import with a clause that can be
edited. A module that is imported in other shapes only is an error; imports of types only do not
count. -/
def findBlock (content : Text) (module : String) : Except Error (Option Block) :=
  firstBlock (valueImports content module)

/-! ### The names that imports bind -/

/-- The last word of an entry, which is the name it binds. -/
def boundName? (entry : Text) : Option Text :=
  match (words entry).getLast? with
  | some name => if isIdentifier name then some name else none
  | none => none

/-- The names that a clause binds. The word `type` is none of them outside braces. -/
def clauseNames (clause : Text) : List Text :=
  match braced? clause with
  | some b =>
    (pieces ',' b.inner).filterMap boundName? ++
      ((pieces ',' (b.before ++ [' '] ++ b.after)).filterMap boundName?).filter
        (· ≠ ['t', 'y', 'p', 'e'])
  | none => ((pieces ',' clause).filterMap boundName?).filter (· ≠ ['t', 'y', 'p', 'e'])

/-- The names that a statement binds. -/
def Statement.names (s : Statement) : List Text :=
  match s.clause with
  | some clause => clauseNames clause
  | none => []

/-- All names that the import statements of a text bind. -/
def boundNames (content : Text) : Names :=
  Names.ofList (((Outline.read content).entries.flatMap (·.2.names)).map String.ofList)

end DesignTokens.Import
