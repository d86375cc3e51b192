import DesignTokens.Config.Basic
import DesignTokens.Import.Edit
import DesignTokens.Pattern.Template
import DesignTokens.Rule.Canonical
import DesignTokens.Rule.Error

/-! # Rule sets

A rule set is a configuration that was checked: every pattern can be matched, ids are distinct, and
no replacement or canonical spelling is, by itself, matched by a replacing rule that would see it
again. The spellings of the table and the names to import have patterns too, which are refused if
they are too large.

## Main definitions

* `Rule` - a rule that can be run
* `UsageImport` - a name that has to be imported where it is used
* `RuleSet` - what a run works with
* `RuleSet.load` - the rule set of a configuration, or the first fault of it
-/

namespace DesignTokens

open Config (Kind)

/-- Names that have to be imported from a module. -/
structure Requirement where
  module : String
  symbols : Names
  deriving Repr, DecidableEq

/-- A rule that can be run. -/
structure Rule where
  id : String
  kind : Kind
  pattern : Pattern
  /-- What a match is replaced by; without one, matches are only reported. -/
  replacement : Option String
  description : String
  /-- The extensions, in normal form, of the files that the rule is for; none stands for all. -/
  appliesTo : Names
  requires : Option Requirement
  deriving Repr, DecidableEq

namespace Rule

/-- Whether a rule is for files with an extension. -/
def isFor (rule : Rule) (extension : String) : Bool :=
  rule.appliesTo.isEmpty || rule.appliesTo.contains (normalizeExtension extension)

/-- Whether a rule of the kind that replaces has nothing to put in place of a match. -/
def isFlagOnly (rule : Rule) : Bool :=
  rule.kind = .replace && rule.replacement.isNone

/-- Whether a rule replaces its matches. -/
def isReplacing (rule : Rule) : Bool :=
  rule.kind = .replace && rule.replacement.isSome

/-- The replacement of a rule, if it has no reference to a group. -/
def literalReplacement? (rule : Rule) : Option String :=
  rule.replacement.filter fun r => !r.toList.contains '$'

/-- A text with every match of a replacing rule replaced; nothing if there is no match. -/
def replace? (rule : Rule) (t : Text) : Option Text :=
  rule.replacement.bind fun r => rule.pattern.replaceAll (Pattern.Template.read r.toList) t

end Rule

/-- A name that has to be imported where it is used. -/
structure UsageImport where
  symbol : String
  module : String
  deriving Repr, DecidableEq

/-- The pattern of a name that has to be imported where it is used. -/
def UsageImport.usagePattern (symbol : String) : Text :=
  Pattern.quoteBetween true true symbol.toList

/-- The offset of the first place in a line where the name stands between word boundaries. -/
def UsageImport.usedAt? (usage : UsageImport) (line : Text) : Option Nat :=
  Text.findWhole usage.symbol.toList line

/-- What a run works with. -/
structure RuleSet where
  rules : List Rule
  canonical : CanonicalNames
  usageImports : List UsageImport
  importHosts : List Import.Host
  deriving Repr, DecidableEq

namespace RuleSet

/-- Checks that a name can be imported. -/
def checkSymbol (module symbol : String) : Except ConfigError Unit :=
  if Text.isIdentifier symbol.toList then .ok () else .error (.invalidSymbol module symbol)

/-- Checks one rule and makes it ready to run. `seen` has the ids of the rules before it. -/
def compileRule (seen : List String) (index : Nat) (entry : Config.RuleEntry) :
    Except ConfigError Rule := do
  let id := String.ofList (Text.trim entry.id.toList)
  if id.isEmpty then .error (.emptyId index)
  else if seen.contains id then .error (.duplicateId id)
  else
    match Pattern.read entry.pattern with
    | .error _ => .error (.invalidPattern id)
    | .ok pattern =>
      if entry.kind = .detect && (entry.replacement.isSome || entry.requires.isSome) then
        .error (.unexpectedReplacement id)
      else do
        -- The names are checked here, and put in order below.
        match entry.requires with
        | some r => r.symbols.forM (checkSymbol r.module)
        | none => .ok ()
        return {
          id
          kind := entry.kind
          pattern
          replacement := entry.replacement
          description := entry.description
          appliesTo := Names.ofList (entry.appliesTo.map normalizeExtension)
          requires := entry.requires.map fun r => ⟨r.module, Names.ofList r.symbols⟩ }

/-- Checks rules in order, from the one with number `index` on. -/
def compileFrom (seen : List String) (index : Nat) :
    List Config.RuleEntry → Except ConfigError (List Rule)
  | [] => .ok []
  | entry :: rest => do
    let rule ← compileRule seen index entry
    return rule :: (← compileFrom (rule.id :: seen) (index + 1) rest)

/-- Checks that no literal replacement is matched by its own rule or by one before it. `earlier`
has the replacing rules before, in order. -/
def checkConvergence (earlier : List Rule) : List Rule → Except ConfigError Unit
  | [] => .ok ()
  | rule :: rest => do
    match rule.literalReplacement? with
    | some replacement =>
      match (earlier ++ [rule]).find? (·.pattern.isMatch replacement.toList) with
      | some found => .error (.nonConvergent rule.id replacement found.id)
      | none => .ok ()
    | none => .ok ()
    checkConvergence (earlier ++ [rule]) rest

/-- The rules of a configuration, checked. -/
def compile (entries : List Config.RuleEntry) : Except ConfigError (List Rule) := do
  let rules ← compileFrom [] 0 entries
  checkConvergence [] (rules.filter Rule.isReplacing)
  return rules

/-- Checks that a text is the pattern of something, which is named in the error. -/
def checkPattern (id : String) (source : Text) : Except ConfigError Unit :=
  match Pattern.read (String.ofList source) with
  | .error _ => .error (.invalidPattern id)
  | .ok _ => .ok ()

/-- Checks that the spellings of a table have a pattern. An empty table needs none. -/
def checkMatcher (names : ByName String) : Except ConfigError Unit :=
  if names.isEmpty then .ok () else checkPattern "canonical_names" (CanonicalNames.matcher names)

/-- Checks that a table does not change its own canonical spellings. -/
def checkChain (names : ByName String) : Except ConfigError Unit :=
  match CanonicalNames.chain? names with
  | some (spelling, canonical) => .error (.canonicalChain spelling canonical)
  | none => .ok ()

/-- Checks a table of spellings. -/
def checkNames (version : Nat) (names : ByName String) : Except ConfigError CanonicalNames := do
  checkMatcher names
  checkChain names
  return ⟨version, names⟩

/-- Checks that no replacing rule matches a canonical spelling. -/
def checkCanonical (rules : List Rule) (names : ByName String) : Except ConfigError Unit :=
  names.forM fun entry =>
    match rules.find? fun r => r.isReplacing && r.pattern.isMatch entry.2.toList with
    | some rule => .error (.nonConvergent "canonical_names" entry.2 rule.id)
    | none => .ok ()

/-- Checks a name that has to be imported where it is used. -/
def compileUsage (entry : Config.UsageEntry) : Except ConfigError UsageImport := do
  checkSymbol entry.module entry.symbol
  checkPattern ("import:" ++ entry.symbol) (UsageImport.usagePattern entry.symbol)
  return ⟨entry.symbol, entry.module⟩

/-- The rule set of a configuration, or the first fault of it. -/
def load (config : Config) : Except ConfigError RuleSet := do
  let rules ← compile config.rules
  let canonical ← checkNames config.canonicalNames.version config.canonicalNames.names
  checkCanonical rules canonical.names
  let usageImports ← config.imports.mapM compileUsage
  return {
    rules
    canonical
    usageImports
    importHosts := config.importHosts.map fun h => ⟨h.module, h.host, h.anchor⟩ }

/-- The rules for files with an extension, in order. -/
def forExtension (set : RuleSet) (extension : String) : List Rule :=
  set.rules.filter (·.isFor extension)

/-- The rule with an id. -/
def get? (set : RuleSet) (id : String) : Option Rule :=
  set.rules.find? (·.id = id)

end RuleSet

end DesignTokens
