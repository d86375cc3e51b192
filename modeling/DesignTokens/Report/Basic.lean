import DesignTokens.Finding

/-! # Reports

A report gathers what a run found and changed. Findings are filed under their file; files are in
the order of their paths, and the findings of a file in the order they came in.

## Main definitions

* `Mode` - what a run does with the files it visits
* `Report` - what a run found and changed
* `Report.push`, `Report.extend` - further findings
* `Report.summaryLine` - the outcome of a run in one line
-/

namespace DesignTokens

/-- What a run does with the files it visits. -/
inductive Mode where
  /-- Scans files and writes nothing. -/
  | audit
  /-- Fixes files. -/
  | fix
  /-- Finds out what fixing would change and writes nothing. -/
  | dryRun
  deriving Repr, DecidableEq

/-- The word for a mode. -/
def Mode.word : Mode → String
  | audit => "audit"
  | fix => "fix"
  | dryRun => "dry-run"

/-- What a run found and changed. -/
structure Report where
  mode : Mode
  filesScanned : Nat := 0
  /-- The files that were changed, or would be, in the order of the run. -/
  filesChanged : List Path := []
  /-- The findings of each file, in the order of the paths. -/
  perFile : List (Path × List Finding) := []
  deriving Repr, DecidableEq

namespace Report

/-- Changes the findings filed under a path; equal paths share the entry of the first. -/
def alterFile (path : Path) (change : List Finding → List Finding) :
    List (Path × List Finding) → List (Path × List Finding)
  | [] => [(path, change [])]
  | (other, findings) :: rest =>
    if path.same other then (other, change findings) :: rest
    else if path.lt other then (path, change []) :: (other, findings) :: rest
    else (other, findings) :: alterFile path change rest

/-- One more finding. -/
def push (report : Report) (finding : Finding) : Report :=
  { report with perFile := alterFile finding.file (· ++ [finding]) report.perFile }

/-- Further findings. -/
def extend (report : Report) (findings : List Finding) : Report :=
  findings.foldl push report

/-- An entry for a file, without findings if it is new. -/
def touch (report : Report) (path : Path) : Report :=
  { report with perFile := alterFile path id report.perFile }

/-- The files with findings. -/
def filesWithFindings (report : Report) : List (Path × List Finding) :=
  report.perFile.filter (!·.2.isEmpty)

/-- All findings, by file. -/
def findings (report : Report) : List Finding :=
  report.perFile.flatMap (·.2)

/-- The number of files with findings. -/
def totalFilesWithIssues (report : Report) : Nat :=
  report.filesWithFindings.length

/-- The number of findings. -/
def totalFindings (report : Report) : Nat :=
  report.findings.length

/-- The number of findings of each kind that has some. -/
def countsByKind (report : Report) : List (Finding.Kind × Nat) :=
  (Finding.Kind.all.map fun kind =>
    (kind, report.findings.countP (·.kind = kind))).filter (0 < ·.2)

/-- Whether some file could not be dealt with. -/
def hasFailures (report : Report) : Bool :=
  report.findings.any (·.kind.isFailure)

/-- The outcome of a run in one line. -/
def summaryLine (report : Report) : String :=
  if report.totalFindings = 0 then "no problems found"
  else
    "Found " ++ toString report.totalFindings ++ " issue(s) in " ++
      toString report.totalFilesWithIssues ++ " file(s)"

end Report

end DesignTokens
