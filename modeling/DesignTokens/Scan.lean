import DesignTokens.Finding
import DesignTokens.Rule.RuleSet
import DesignTokens.Text.Line

/-! # Scanning

A file is scanned line by line. A rule is reported once for a line, at its first match, unless the
start of a comment stands before the match on the same line.

## Main definitions

* `Scan.isCommented` - whether the start of a comment stands before an offset
* `Scan.withRules` - the findings of given rules
* `Scan.file` - the findings of the detecting rules that are for a file
-/

namespace DesignTokens.Scan

open Text

/-- Whether the start of a comment stands in a text. -/
def hasCommentStart (t : Text) : Bool :=
  hasPart ['/', '/'] t || hasPart ['/', '*'] t

/-- Whether the start of a comment stands before an offset of a line. -/
def isCommented (line : Text) (offset : Nat) : Bool :=
  hasCommentStart (takeBytes offset line)

/-- The finding of a rule on a line, if there is one. -/
def findingOn? (file : Path) (number : Nat) (line : Text) (rule : Rule) : Option Finding :=
  match rule.pattern.find line with
  | none => none
  | some hit =>
    if isCommented line hit.offset then none
    else some {
      file
      line := number
      kind := .detection
      ruleId := some rule.id
      description := rule.description
      matched := String.ofList hit.found
      snippet := String.ofList (trim line) }

/-- The findings on lines, the first of which has the given number. -/
def linesFrom (file : Path) (rules : List Rule) (number : Nat) : List Text → List Finding
  | [] => []
  | line :: rest =>
    rules.filterMap (findingOn? file number line) ++ linesFrom file rules (number + 1) rest

/-- The findings of given rules in a text, by line and then in the order of the rules. -/
def withRules (file : Path) (t : Text) (rules : List Rule) : List Finding :=
  linesFrom file rules 1 (lines t)

/-- The findings of the detecting rules that are for a file. -/
def file (set : RuleSet) (path : Path) (t : Text) : List Finding :=
  withRules path t ((set.forExtension path.extension).filter (·.kind = .detect))

end DesignTokens.Scan
