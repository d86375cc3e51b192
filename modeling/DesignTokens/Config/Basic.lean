import DesignTokens.Names

/-! # Configurations

What a run is configured by: rules in order, the canonical spellings of names, the names that must
be imported where they are used, the imports that may take names of another module, the fixed text
of the report, and which files to look at. A configuration is not checked here beyond its form.

## Main definitions

* `Config` - a configuration
* `Config.RuleEntry` - a rule as it is configured
-/

namespace DesignTokens

namespace Config

/-- What a rule does with what it matches: report it, or replace it. -/
inductive Kind where
  | detect
  | replace
  deriving Repr, DecidableEq

/-- The word for a kind. -/
def Kind.word : Kind → String
  | detect => "detect"
  | replace => "rewrite"

/-- Names that have to be imported from a module. -/
structure RequirementEntry where
  module : String
  symbols : List String
  deriving Repr, DecidableEq

/-- A rule as it is configured. -/
structure RuleEntry where
  id : String
  kind : Kind
  pattern : String
  replacement : Option String := none
  description : String := ""
  /-- The extensions of the files that the rule is for; none stands for all. -/
  appliesTo : List String := []
  requires : Option RequirementEntry := none
  deriving Repr, DecidableEq

/-- The canonical spellings of names, with the version of the table. -/
structure CanonicalEntry where
  version : Nat := 1
  /-- The canonical spelling of each other one, in increasing order of these. -/
  names : ByName String := []
  deriving Repr, DecidableEq

/-- A name that has to be imported from a module where it is used. -/
structure UsageEntry where
  symbol : String
  module : String
  deriving Repr, DecidableEq

/-- Names wanted from `module` may be added to an import of `host` that has the name `anchor`. -/
structure HostEntry where
  module : String
  host : String
  anchor : Option String := none
  deriving Repr, DecidableEq

/-- The fixed text of a report. -/
structure ReportEntry where
  title : String := "Token Audit Report"
  reference : List String := []
  actions : List String := []
  checklist : List String := []
  deriving Repr, DecidableEq

/-- Which files to look at. -/
structure FilesEntry where
  extensions : List String := ["js", "jsx", "ts", "tsx"]
  exclude : List String := []
  deriving Repr, DecidableEq

end Config

open Config in
/-- A configuration. -/
structure Config where
  rules : List RuleEntry := []
  canonicalNames : CanonicalEntry := {}
  imports : List UsageEntry := []
  importHosts : List HostEntry := []
  report : ReportEntry := {}
  files : FilesEntry := {}
  deriving Repr, DecidableEq

end DesignTokens
