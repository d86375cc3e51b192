import DesignTokens.Disk.Replace

/-! # Storage

What a run needs of the files it works on, in any monad. A disk that is kept as a state is one
such storage.

## Main definitions

* `Storage` - access to files
* `Disk.storage` - access to the files of a disk that is kept as a state
-/

namespace DesignTokens

/-- Access to files. -/
structure Storage (m : Type → Type) where
  /-- Whether a path leads to a folder. -/
  isFolder : Path → m Bool
  /-- Whether a path leads to a file. -/
  isFile : Path → m Bool
  /-- What a walk from a path begins with. -/
  rootOf : Path → m (Except FileFault Tree)
  /-- The content of the file that a path leads to. -/
  read : Path → m (Except FileFault Bytes)
  /-- Replaces the file at a path, as a whole or not at all. A failure comes with its wording. -/
  write : Path → Text → m (Except String Unit)

/-- Access to the files of a disk that is kept as a state. -/
def Disk.storage {m : Type → Type} [Monad m] [MonadStateOf Disk m] : Storage m where
  isFolder path := do return (← getThe Disk).isFolder path
  isFile path := do return (← getThe Disk).isFile path
  rootOf path := do return (← getThe Disk).rootOf path
  read path := do return (← getThe Disk).read path
  write path content := do
    let attempt := (← getThe Disk).replace Disk.noRefusals path content.encode
    set attempt.disk
    return attempt.result.mapError FileFault.message

end DesignTokens
