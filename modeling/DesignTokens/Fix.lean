import DesignTokens.Import.Declaration
import DesignTokens.Scan

/-! # Fixing

A text goes through every replacing rule that is for its file, in order, and then through the
canonical spellings. When it is settled, the names that the rules that matched require, and the
names that are used but not imported, are added to its imports, one module after the other. Where
that cannot be done the text stays as it is and a finding says so.

## Main definitions

* `Fix.Outcome` - what became of a text
* `Fix.settle` - the text after rules and canonical spellings, and the rules that matched
* `Fix.requirements` - the names to import, by module
* `Fix.file` - the fixing of a file's text
-/

namespace DesignTokens.Fix

open Text

/-- What became of a text. -/
structure Outcome where
  newText : Text
  changed : Bool
  /-- The ids of the replacing rules that matched, in order. -/
  fired : List String
  /-- The names added to imports, by module. -/
  importsAdded : ByName Names
  unresolved : List Finding
  deriving Repr, DecidableEq

/-- Applies replacing rules in order. The second part has the rules that matched. -/
def applyRules (rules : List Rule) (t : Text) : Text × List Rule :=
  rules.foldl (fun (t, fired) rule =>
    match rule.replace? t with
    | some t => (t, fired ++ [rule])
    | none => (t, fired)) (t, [])

/-- The text after the rules for an extension and the canonical spellings, and the rules that
matched. -/
def settle (set : RuleSet) (extension : String) (t : Text) : Text × List Rule :=
  let (t, fired) := applyRules ((set.forExtension extension).filter Rule.isReplacing) t
  (set.canonical.apply t, fired)

/-! ### Names to import -/

/-- Whether a name is used on one of several lines that start at an offset: outside comments, and
not on a line that starts within an import. -/
def isUsedFrom (usage : UsageImport) (spans : List Import.Span) (offset : Nat) :
    List Text → Bool
  | [] => false
  | raw :: rest =>
    let line := dropEndWhile (fun c => c = '\n' || c = '\r') raw
    -- When the first use on a line is in a comment, all others are.
    (!spans.any (·.contains offset) &&
      (usage.usedAt? line).any fun at_ => !Scan.isCommented line at_) ||
      isUsedFrom usage spans (offset + byteSize raw) rest

/-- Whether a name is used in a text. -/
def isUsed (usage : UsageImport) (t : Text) : Bool :=
  isUsedFrom usage (Import.spans t) 0 (rawLines t)

/-- Adds names to those wanted from a module. -/
def want (module : String) (symbols : Names) (needed : ByName Names) : ByName Names :=
  needed.alter module fun found => Names.union (found.getD []) symbols

/-- The names that rules and uses ask for, by module. -/
def wanted (set : RuleSet) (t : Text) (fired : List Rule) : ByName Names :=
  let byRules := (fired.filterMap (·.requires)).foldl (fun n r => want r.module r.symbols n) []
  (set.usageImports.filter (isUsed · t)).foldl (fun n u => want u.module [u.symbol] n) byRules

/-- The names to import, by module: those asked for that no import binds and the text does not
declare. -/
def requirements (set : RuleSet) (t : Text) (fired : List Rule) : ByName Names :=
  let bound := Import.boundNames t
  let declared := Declaration.declaredNames t
  ((wanted set t fired).map fun (module, symbols) =>
    (module, symbols.filter fun s => !bound.contains s && !declared.contains s)).filter
      (!·.2.isEmpty)

/-! ### Imports -/

/-- The finding for names that could not be added to the imports of a text. -/
def unresolvedFinding (file : Path) (t : Text) (symbols : Names) (e : Import.Error)
    (module : String) : Finding where
  file
  line := e.line
  kind := .unsupportedImportShape
  ruleId := none
  description :=
    "missing \x7b " ++ String.intercalate ", " symbols ++ " \x7d: " ++ e.message
  matched := module
  snippet := String.ofList (trim ((lines t)[e.line - 1]?.getD []))

/-- What is done of the imports of a text. -/
structure Imports where
  text : Text
  added : ByName Names
  unresolved : List Finding
  deriving Repr, DecidableEq

/-- Adds the names wanted from one module. -/
def addImport (set : RuleSet) (file : Path) (state : Imports) (need : String × Names) : Imports :=
  match Import.ensure set.importHosts state.text need.1 need.2 with
  | .ok next =>
    { state with
      text := next
      added := if next = state.text then state.added else state.added.insert need.1 need.2 }
  | .error e =>
    { state with
      unresolved := state.unresolved ++ [unresolvedFinding file state.text need.2 e need.1] }

/-- Adds the names wanted, one module after the other. -/
def addImports (set : RuleSet) (file : Path) (t : Text) (needed : ByName Names) : Imports :=
  needed.foldl (addImport set file) ⟨t, [], []⟩

/-- Findings in the order of their lines. -/
def byLine (findings : List Finding) : List Finding :=
  findings.mergeSort fun a b => a.line ≤ b.line

/-- The fixing of the text of a file. -/
def file (set : RuleSet) (path : Path) (t : Text) : Outcome :=
  let (settled, fired) := settle set path.extension t
  -- Names are needed for the settled text, and what rules only flag is looked for in the new one.
  let imports := addImports set path settled (requirements set settled fired)
  let flagged := (set.forExtension path.extension).filter Rule.isFlagOnly
  { newText := imports.text
    changed := imports.text ≠ t
    fired := fired.map (·.id)
    importsAdded := imports.added
    unresolved := byLine (imports.unresolved ++ Scan.withRules path imports.text flagged) }

end DesignTokens.Fix
