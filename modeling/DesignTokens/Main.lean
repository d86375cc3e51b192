import DesignTokens.CommandLine.Program

/-! # Entry point

The program on the files of the machine. All decisions are made in `CommandLine.program`; here are
only the ways to read, write and ask.

## Main definitions

* `Machine.storage` - the files of the machine
* `Machine.console` - the streams of the process
-/

namespace DesignTokens.Machine

/-- The fault that a failed access stands for. -/
def faultOf : IO.Error → FileFault
  | .inappropriateType _ 21 _ => .isAFolder
  | .inappropriateType .. => .notAFolder
  | .invalidArgument .. => .nameTooLong
  | .resourceBusy .. => .busy
  | .resourceExhausted .. => .noSpace
  | _ => .missing

/-- The result of an access, or its fault. -/
def access {α : Type} (action : IO α) : IO (Except FileFault α) := do
  try
    return .ok (← action)
  catch e =>
    return .error (faultOf e)

/-- The result of an access to a path, or its fault. -/
def accessTo {α : Type} (path : Path) (action : IO α) : IO (Except FileFault α) :=
  match path.fault? with
  | some fault => return .error fault
  | none => access action

/-- Whether a path leads to something of a type. -/
def isOfType (type : IO.FS.FileType) (path : Path) : IO Bool := do
  match ← accessTo path (do (← IO.FS.realPath path.text).metadata) with
  | .ok found => return found.type == type
  | .error _ => return false

/-- The names and kinds of what is in a folder, and below it. Contents are left out. -/
partial def skeleton (folder : String) : IO Tree := do
  let mut entries : ByName Tree := []
  for entry in ← (← IO.FS.realPath folder).readDir do
    let child ←
      match (← entry.path.symlinkMetadata).type with
      | .dir => skeleton (folder ++ "/" ++ entry.fileName)
      | .file => pure (.file [])
      | _ => pure (.link "")
    entries := ByName.insert entry.fileName child entries
  return .folder entries

/-- The content of a file. -/
def content (path : Path) : IO Bytes := do
  return (← IO.FS.readBinFile path.text).toList

/-- Replaces a file by way of a new one beside it. -/
def replace (path : Path) (text : Text) : IO Unit := do
  let staged := path.parent.join ⟨".token-refactor-" ++ toString (← IO.monoNanosNow) ++ ".tmp"⟩
  try
    IO.FS.writeFile staged.text (String.ofList text)
    IO.FS.rename staged.text path.text
  catch e =>
    discard (access (IO.FS.removeFile staged.text))
    throw e

/-- The files of the machine. -/
def storage : Storage IO where
  isFolder := isOfType .dir
  isFile := isOfType .file
  rootOf path := accessTo path (skeleton path.text)
  read path := accessTo path (content path)
  write path text := do return (← accessTo path (replace path text)).mapError FileFault.message

/-- Asks on the terminal; without one the answer is no. -/
def ask (question : String) : IO Bool := do
  let input ← IO.getStdin
  if ← input.isTty then
    IO.print (question ++ " [y/N] ")
    (← IO.getStdout).flush
    return ["y", "yes"].contains (String.ofList (Text.trim (← input.getLine).toList))
  else return false

/-- The streams of the process. -/
def console : CommandLine.Console IO where
  out line := IO.println line
  err line := IO.eprintln line
  ask := ask

end DesignTokens.Machine

/-- Runs the program on the machine. -/
def main (arguments : List String) : IO UInt32 :=
  DesignTokens.CommandLine.program ⟨DesignTokens.Machine.storage, DesignTokens.Machine.console⟩
    arguments
