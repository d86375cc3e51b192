import DesignTokens.Config.Builtin
import DesignTokens.Config.Decode
import DesignTokens.Disk.Storage
import DesignTokens.Rule.Error

/-! # The configuration of a run

The configuration is the one that is asked for; else the one in the root, if there is a file for it;
else the one that is built in.

## Main definitions

* `Config.load` - the configuration in the content of a file
* `Config.resolve` - the configuration of a run, and where it comes from
-/

namespace DesignTokens.Config

/-- The name of the file with the configuration of a root. -/
def fileName : Path := ⟨"token-refactor.toml"⟩

/-- The configuration in the content of a file. -/
def load (path : Path) : Except FileFault Bytes → Except ConfigError Config
  | .error fault => .error (.read path fault)
  | .ok bytes =>
    match Text.decode bytes with
    | .error _ => .error (.read path .notText)
    | .ok text => (Config.read text).elim (.error .parse) .ok

variable {m : Type → Type} [Monad m]

/-- The configuration of a run, and the path of the file that it comes from, if any. -/
def resolve (storage : Storage m) (explicit : Option Path) (root : Path) :
    m (Except ConfigError (Config × Option Path)) := do
  match explicit with
  | some path => return (load path (← storage.read path)).map (·, some path)
  | none =>
    let path := root.join fileName
    if ← storage.isFile path then
      return (load path (← storage.read path)).map (·, some path)
    else return .ok (builtin, none)

end DesignTokens.Config
