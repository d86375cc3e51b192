import DesignTokens.Path

/-! # Faults of files

## Main definitions

* `FileFault` - why a file or folder cannot be used, and `FileFault.message` its wording
* `Path.fault?` - why a path cannot be followed, whatever there is on the disk
-/

namespace DesignTokens

/-- Why a file or folder cannot be used. -/
inductive FileFault where
  | missing
  | busy
  | notAFolder
  | isAFolder
  | noSpace
  | nameTooLong
  | tooManyLinks
  | nullInName
  | notText
  deriving Repr, DecidableEq

/-- The wording of a fault. -/
def FileFault.message : FileFault → String
  | missing => "No such file or directory (os error 2)"
  | busy => "Device or resource busy (os error 16)"
  | notAFolder => "Not a directory (os error 20)"
  | isAFolder => "Is a directory (os error 21)"
  | noSpace => "No space left on device (os error 28)"
  | nameTooLong => "File name too long (os error 36)"
  | tooManyLinks => "Too many levels of symbolic links (os error 40)"
  | nullInName => "file name contained an unexpected NUL byte"
  | notText => "stream did not contain valid UTF-8"

/-- Why a path cannot be followed, whatever there is on the disk. -/
def Path.fault? (p : Path) : Option FileFault :=
  if p.hasNull then some .nullInName
  else if p.text.isEmpty then some .missing
  else if p.isTooLong then some .nameTooLong
  else none

end DesignTokens
