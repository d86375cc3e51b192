import DesignTokens.Disk.Storage
import DesignTokens.Fix
import DesignTokens.Report.Basic
import DesignTokens.Walk

/-! # Runs

A run goes through the files of a walk, one after the other, and scans or fixes each. What goes
wrong with one file becomes a finding of that file and the run goes on. In the mode that fixes files
each change is confirmed before it is written.

## Main definitions

* `Run.Job` - what a run does
* `Run.visit` - what is done with one file
* `Run.files`, `Job.run` - the run over given files, and over those of a walk
-/

namespace DesignTokens

/-- What a run does. -/
structure Run.Job where
  root : Path
  mode : Mode
  rules : RuleSet
  options : Walk.Options

/-- Why there is no run: the root is not a folder. -/
structure Run.NoRoot where
  root : Path
  deriving Repr, DecidableEq

/-- The wording of the error. -/
def Run.NoRoot.message (e : Run.NoRoot) : String :=
  "root directory " ++ e.root.text ++ " does not exist"

namespace Run

variable {m : Type → Type} [Monad m]

/-- The text of a file, or why there is none. -/
def textOf : Except FileFault Bytes → Except String Text
  | .error fault => .error ("cannot read file: " ++ fault.message)
  | .ok bytes => (Text.decode bytes).mapError fun e => "file is not valid UTF-8: " ++ e.message

/-- The files that a job is about, and the findings of the walk. -/
def walk (storage : Storage m) (options : Walk.Options) (root : Path) :
    m (List Path × List Finding) := do
  return Walk.collect options root (← storage.rootOf root)

/-- Confirms and writes a change to the file `path`, whose path below the root is `relative`. -/
def write (storage : Storage m) (confirm : Path → Fix.Outcome → m Bool) (path relative : Path)
    (outcome : Fix.Outcome) (report : Report) : m Report := do
  if ← confirm relative outcome then
    match ← storage.write path outcome.newText with
    | .ok () => return { report with filesChanged := report.filesChanged ++ [relative] }
    | .error reason =>
      return report.push (.fileLevel relative .writeFailure ("cannot write file: " ++ reason))
  else return report

/-- What is done with the text of one file. -/
def handle (storage : Storage m) (confirm : Path → Fix.Outcome → m Bool) (job : Job)
    (path relative : Path) (text : Text) (report : Report) : m Report := do
  match job.mode with
  | .audit => return report.extend (Scan.file job.rules relative text)
  | .dryRun =>
    let outcome := Fix.file job.rules relative text
    let changed := if outcome.changed then [relative] else []
    return { report with filesChanged := report.filesChanged ++ changed }.extend outcome.unresolved
  | .fix =>
    let outcome := Fix.file job.rules relative text
    let report ←
      if outcome.changed then write storage confirm path relative outcome report else pure report
    return report.extend outcome.unresolved

/-- What is done with one file. -/
def visit (storage : Storage m) (confirm : Path → Fix.Outcome → m Bool) (job : Job)
    (report : Report) (path : Path) : m Report := do
  let relative := path.relativeTo job.root
  let report := { report with filesScanned := report.filesScanned + 1 }
  match textOf (← storage.read path) with
  | .error reason => return report.push (.fileLevel relative .fileReadError reason)
  | .ok text => handle storage confirm job path relative text report

/-- A run over given files. -/
def files (storage : Storage m) (confirm : Path → Fix.Outcome → m Bool) (job : Job)
    (report : Report) (paths : List Path) : m Report :=
  paths.foldlM (visit storage confirm job) report

/-- A run over the files of a walk. -/
def Job.run (job : Job) (storage : Storage m) (confirm : Path → Fix.Outcome → m Bool) :
    m (Except NoRoot Report) := do
  if ← storage.isFolder job.root then
    let (paths, findings) ← walk storage job.options job.root
    let start : Report := { mode := job.mode }
    return .ok (← files storage confirm job (start.extend findings) paths)
  else return .error ⟨job.root⟩

end Run

end DesignTokens
