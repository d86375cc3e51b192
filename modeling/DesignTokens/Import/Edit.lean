import DesignTokens.Character.Case
import DesignTokens.Import.Clause

/-! # Adding imports

Names are added to the imports of a text in the first of these ways that is open: in the list of
one of the module's imports, in the list of a module that may host it, in a new statement after the
last one, in a new statement at the beginning. Nothing is ever removed, and a list that has all the
names already is left as it is.

## Main definitions

* `Import.sortSymbols` - names ordered without regard to case, and by code points where that ties
* `Import.Host` - the imports of one module that may take the names of another
* `Import.merge` - a list of names with more names
* `Import.insert` - a text with one more statement
* `Import.ensure` - a text whose imports bind given names from a module
-/

namespace DesignTokens.Import

open Character Text

/-- Whether `a` may stand before `b` in a list: first by lower case, then by code points. -/
def symbolLe (a b : String) : Bool :=
  let x := lowerText a.toList
  let y := lowerText b.toList
  Text.lt x y || (x = y && !nameLt b a)

/-- The names of a list in the order that lists are written in. -/
def sortSymbols (symbols : List String) : List String :=
  symbols.mergeSort symbolLe

/-- The text of a list of names. -/
def listText (symbols : List String) : Text :=
  joinWith [',', ' '] (symbols.map String.toList)

/-- The names of a list and after them those of `required` that it lacks. -/
def addMissing (symbols required : List String) : List String :=
  symbols ++ required.filter (!symbols.contains ·)

/-- The text of the file with `required` added to a list. -/
def merge (block : Block) (required : Names) : Text :=
  if required.all (block.symbols.contains ·) then block.before ++ block.inner ++ block.after
  else
    block.before ++ [' '] ++ listText (sortSymbols (addMissing block.symbols required)) ++ [' '] ++
      block.after

/-- The text of an import of a list of names. -/
def importText (quote : Char) (semicolon : Bool) (module : String) (symbols : List String) : Text :=
  importWord ++ [' ', '{', ' '] ++ listText symbols ++ [' ', '}', ' '] ++ fromWord ++
    [' ', quote] ++ module.toList ++ [quote] ++ if semicolon then [';'] else []

/-- Puts `line` on a line of its own after the first line of a text, or at the end of a text of one
line. -/
def insertAfterLine (lineEnd line t : Text) : Text :=
  match splitLineEnd? t with
  | some (first, rest) => first ++ lineEnd ++ line ++ rest
  | none => t ++ lineEnd ++ line

/-- Whether a text starts with the line that names an interpreter. -/
def hasInterpreterLine (content : Text) : Bool :=
  ['#', '!'].isPrefixOf content

/-- A text with one more import: after the last import, else after the line that names an
interpreter, else in front. It is quoted like the first import and ends like the last. -/
def insert (content : Text) (module : String) (required : Names) : Text :=
  let found := statements content
  let quote := (found.head?.map (·.statement.quote)).getD '\''
  let semicolon := (found.getLast?.map (·.statement.semicolon)).getD true
  let line := importText quote semicolon module (sortSymbols required)
  match found.getLast? with
  | some last =>
    last.before ++ last.statement.text ++ insertAfterLine content.lineEnd line last.after
  | none =>
    if hasInterpreterLine content then
      match splitLineEnd? content with
      | some _ => insertAfterLine content.lineEnd line content
      | none => insertAfterLine content.lineEnd line content ++ content.lineEnd
    else line ++ content.lineEnd ++ content

/-- Names wanted from `module` may be added to an import of `host`, if that import has the name
`anchor`, where one is given. -/
structure Host where
  module : String
  host : String
  anchor : Option String
  deriving Repr, DecidableEq

/-- The list of a host's import, if it can be edited and has the anchor. -/
def Host.block? (content : Text) (h : Host) : Option Block :=
  match findBlock content h.host with
  | .ok (some block) =>
    if h.anchor.all (block.symbols.contains ·) then some block else none
  | _ => none

/-- A text whose imports bind the names `required` from `module`. -/
def ensure (hosts : List Host) (content : Text) (module : String) (required : Names) :
    Except Error Text :=
  if required.isEmpty then .ok content
  else
    match findBlock content module with
    | .error e => .error e
    | .ok (some block) => .ok (merge block required)
    | .ok none =>
      match (hosts.filter (·.module = module)).findSome? (·.block? content) with
      | some block => .ok (merge block required)
      | none => .ok (insert content module required)

end DesignTokens.Import
