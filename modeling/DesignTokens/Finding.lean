import DesignTokens.Path

/-! # Findings

A finding is one thing that needs a human: a match of a rule, or a file that could not be dealt
with.

## Main definitions

* `Finding` - a finding, with its place and its text
* `Finding.Kind` - what produced a finding
-/

namespace DesignTokens

/-- What produced a finding. -/
inductive Finding.Kind where
  /-- A rule matched and nothing was replaced. -/
  | detection
  /-- A file or folder could not be read, or is not UTF-8. -/
  | fileReadError
  /-- Names could not be added to the imports of a file. -/
  | unsupportedImportShape
  /-- A changed file could not be written. -/
  | writeFailure
  deriving Repr, DecidableEq

namespace Finding.Kind

/-- All kinds, in the order they are counted in. -/
def all : List Kind :=
  [detection, fileReadError, unsupportedImportShape, writeFailure]

/-- The word for a kind. -/
def word : Kind → String
  | detection => "detection"
  | fileReadError => "file-read-error"
  | unsupportedImportShape => "unsupported-import-shape"
  | writeFailure => "write-failure"

/-- Whether a kind stands for work that could not be done. -/
def isFailure (kind : Kind) : Bool :=
  kind != detection

end Finding.Kind

/-- One thing that needs a human. -/
structure Finding where
  file : Path
  /-- The line, counted from one; zero for the whole file. -/
  line : Nat
  kind : Finding.Kind
  ruleId : Option String
  description : String
  /-- The text that was matched. -/
  matched : String
  /-- The whole line without the blanks around it. -/
  snippet : String
  deriving Repr, DecidableEq

/-- A finding about a whole file. -/
def Finding.fileLevel (file : Path) (kind : Kind) (description : String) : Finding :=
  ⟨file, 0, kind, none, description, "", ""⟩

end DesignTokens
