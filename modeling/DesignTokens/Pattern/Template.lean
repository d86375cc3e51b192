import DesignTokens.Pattern.Match

/-! # Replacements

A replacement is a text in which a dollar sign before a number or a name stands for the text of a
group, and two dollar signs for one. The name is as long as possible, or stands in braces. A group
that a match did not pass stands for nothing, and so does a name that no group has.

## Main definitions

* `Pattern.Template` - a replacement, and `Pattern.Template.read` its reading
* `Pattern.replaceAll` - a text with every match replaced
-/

namespace DesignTokens.Pattern

/-- A part of a replacement. -/
inductive TemplatePart where
  | literal (c : Char)
  | number (index : Nat)
  | name (name : String)
  deriving Repr, DecidableEq

/-- A replacement: its parts in order. -/
abbrev Template := List TemplatePart

namespace Template

/-- The characters of a name that stands without braces. -/
def isNameChar (c : Char) : Bool :=
  c.isAlphanum || c = '_'

/-- A number without sign that a machine word can hold, with a plus sign in front at most. -/
def number? (name : Text) : Option Nat :=
  let digits :=
    match name with
    | '+' :: rest => rest
    | _ => name
  if digits.isEmpty || !digits.all Char.isDigit then none
  else if decimalNumber digits < 0x10000000000000000 then some (decimalNumber digits) else none

/-- The part that a reference stands for. -/
def reference (name : Text) : TemplatePart :=
  match number? name with
  | some n => .number n
  | none => .name (String.ofList name)

/-- Reads the parts of a replacement; the first `skip` characters belong to a part already read. -/
def readFrom (skip : Nat) : Text → Template
  | [] => []
  | c :: rest =>
    match skip with
    | skip + 1 => readFrom skip rest
    | 0 =>
      if c != '$' then .literal c :: readFrom 0 rest
      else
        match rest with
        | '$' :: _ => .literal '$' :: readFrom 1 rest
        | '{' :: more =>
          -- A brace that nothing closes is text, and so is the dollar sign in front of it.
          if more.contains '}' then
            let name := more.takeWhile (· ≠ '}')
            reference name :: readFrom (name.length + 2) rest
          else .literal '$' :: readFrom 0 rest
        | _ =>
          let name := rest.takeWhile isNameChar
          if name.isEmpty then .literal '$' :: readFrom 0 rest
          else reference name :: readFrom name.length rest

/-- Reads a replacement. -/
def read (t : Text) : Template :=
  readFrom 0 t

/-- The text of a group of a match, where number zero is the whole match; nothing for a group that
the match did not pass. -/
def groupText (found : Text) (marks : Marks) (index : Nat) : Text :=
  if index = 0 then found else (marks.text? found index).getD []

/-- The text that a replacement stands for at a match. -/
def expand (template : Template) (names : List (String × Nat)) (found : Text) (marks : Marks) :
    Text :=
  template.flatMap fun
    | .literal c => [c]
    | .number index => groupText found marks index
    | .name name => ((names.lookup name).map (groupText found marks)).getD []

end Template

/-- A text with every match replaced; nothing if there is no match. -/
def replaceAll (pattern : Pattern) (template : Template) (t : Text) : Option Text :=
  Text.replaceHits (template.expand pattern.names) (pattern.hits t)

end DesignTokens.Pattern
