import DesignTokens.Disk.Fault

/-! # Errors of configurations

## Main definitions

* `ConfigError` - why a configuration cannot be used, and `ConfigError.message` its wording
-/

namespace DesignTokens

/-- Why a configuration cannot be used. -/
inductive ConfigError where
  | read (path : Path) (fault : FileFault)
  | parse
  | emptyId (index : Nat)
  | duplicateId (id : String)
  | invalidPattern (id : String)
  | unexpectedReplacement (id : String)
  | nonConvergent (id replacement matchedBy : String)
  | canonicalChain (spelling canonical : String)
  | invalidSymbol (module symbol : String)
  deriving Repr, DecidableEq

/-- The wording of an error. -/
def ConfigError.message : ConfigError → String
  | read path fault =>
    "failed to read rule configuration " ++ path.text ++ ": " ++ fault.message
  | parse => "rule configuration is not valid TOML"
  | emptyId index => "rule #" ++ toString index ++ " has an empty id"
  | duplicateId id => "duplicate rule id '" ++ id ++ "'"
  | invalidPattern id => "rule '" ++ id ++ "': invalid pattern"
  | unexpectedReplacement id =>
    "rule '" ++ id ++ "': detect rules cannot carry a replacement or import requirement"
  | nonConvergent id replacement matchedBy =>
    "rule '" ++ id ++ "': replacement '" ++ replacement ++ "' is matched again by rule '" ++
      matchedBy ++ "'"
  | canonicalChain spelling canonical =>
    "canonical name '" ++ canonical ++ "' for alias '" ++ spelling ++
      "' is itself rewritten by the table"
  | invalidSymbol module symbol =>
    "import requirement for '" ++ module ++ "' has an invalid symbol '" ++ symbol ++ "'"

end DesignTokens
