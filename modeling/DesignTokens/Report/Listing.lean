import DesignTokens.Report.Basic

/-! # Reports on the console

## Main definitions

* `Report.listing` - the lines that a report is shown as
-/

namespace DesignTokens.Report

/-- The line with the counts. -/
def diagnostics (report : Report) : String :=
  "\nDiagnostics: Files: " ++ toString report.filesScanned ++ ", with issues: " ++
    toString report.totalFilesWithIssues ++ ", findings: " ++ toString report.totalFindings

/-- The line for a finding filed under a path. -/
def findingLine (path : Path) (finding : Finding) : String :=
  let location := "  " ++ path.text ++ ":" ++ toString finding.line ++ " "
  if finding.kind.isFailure then location ++ finding.kind.word ++ " " ++ finding.description
  else location ++ finding.description ++ " " ++ finding.snippet

/-- The lines for the files that were changed, or would be. -/
def changeLines (report : Report) : List String :=
  match report.mode with
  | .audit => []
  | .fix => report.filesChanged.map ("Updated: " ++ ·.text)
  | .dryRun => report.filesChanged.map ("Would update: " ++ ·.text)

/-- The line with the outcome. -/
def outcomeLine (report : Report) : String :=
  if report.totalFindings = 0 then "ok: " ++ report.summaryLine
  else "\nwarn: " ++ report.summaryLine

/-- The lines after the outcome. -/
def closingLines (report : Report) : List String :=
  let count := toString report.filesChanged.length ++ " file(s)"
  match report.mode with
  | .audit => []
  | .fix => ["Rewrote " ++ count]
  | .dryRun =>
    ["Would rewrite " ++ count, "\nhint: Run without --dry-run to apply changes"]

/-- The lines that a report is shown as. -/
def listing (report : Report) (verbose : Bool) : List String :=
  (if verbose then [report.diagnostics] else []) ++
    report.perFile.flatMap (fun (path, findings) => findings.map (findingLine path)) ++
    report.changeLines ++ [report.outcomeLine] ++ report.closingLines

end DesignTokens.Report
