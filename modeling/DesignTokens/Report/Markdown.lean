import DesignTokens.Config.Basic
import DesignTokens.Report.Basic

/-! # Reports as documents

A report is written as a Markdown document: the counts, the files changed, the fixed text of the
configuration, and a section for each file with findings.

## Main definitions

* `Report.fileSection` - the lines of the section of a file
* `Report.markdown` - the document
-/

namespace DesignTokens.Report

/-- The text of lines, each with its end. -/
def unlines (lines : List String) : String :=
  String.join (lines.map (· ++ "\n"))

/-- The lines of a part of the document, if there is something to write in it. -/
def part {α : Type} (items : List α) (lines : List String) : List String :=
  if items.isEmpty then [] else lines

/-- The text for a finding: its description, else the id of its rule, else its kind. -/
def label (finding : Finding) : String :=
  if finding.description.isEmpty then finding.ruleId.getD finding.kind.word
  else finding.description

/-- The lines for a finding. -/
def findingLines (finding : Finding) : List String :=
  let location := if finding.line = 0 then "File" else "Line " ++ toString finding.line
  let failure := if finding.kind.isFailure then " [" ++ finding.kind.word ++ "]" else ""
  ("- " ++ location ++ ": " ++ label finding ++ failure) ::
    if finding.snippet.isEmpty then [] else ["  `" ++ finding.snippet ++ "`"]

/-- The lines of the section of a file. -/
def fileSection (entry : Path × List Finding) : List String :=
  "" :: ("### " ++ entry.1.text ++ " (" ++ toString entry.2.length ++ ")") :: "" ::
    entry.2.flatMap findingLines

/-- The lines with the counts. -/
def countLines (report : Report) : List String :=
  ["- Mode: " ++ report.mode.word,
   "- Files scanned: " ++ toString report.filesScanned,
   "- Files with issues: " ++ toString report.totalFilesWithIssues,
   "- Total findings: " ++ toString report.totalFindings] ++
  (report.countsByKind.filter (·.1.isFailure)).map fun (kind, count) =>
    "- " ++ kind.word ++ ": " ++ toString count

/-- The heading over the files changed. -/
def changedHeading : Mode → String
  | .dryRun => "Files that would change"
  | _ => "Rewritten files"

/-- The sections of the files with findings. -/
def sections (report : Report) : List (List String) :=
  report.filesWithFindings.map fileSection

/-- Lines with their numbers in front, from a given number on. -/
def numbered (n : Nat) : List String → List String
  | [] => []
  | line :: rest => (toString n ++ ". " ++ line) :: numbered (n + 1) rest

/-- The lines of the document. -/
def markdownLines (report : Report) (text : Config.ReportEntry) : List String :=
  ["# " ++ text.title, ""] ++ report.countLines ++
  part report.filesChanged
    (["", "## " ++ changedHeading report.mode, ""] ++
      report.filesChanged.map fun path => "- `" ++ path.text ++ "`") ++
  part text.reference (["", "## Correct pattern", "", "```tsx"] ++ text.reference ++ ["```"]) ++
  ["", "## Findings"] ++
  (if report.totalFindings = 0 then ["", "No problems found."] else []) ++
  report.sections.flatten ++
  part text.actions (["", "## Recommended actions", ""] ++ numbered 1 text.actions) ++
  part text.checklist (["", "## Checklist", ""] ++ text.checklist.map ("- [ ] " ++ ·))

/-- The document of a report. -/
def markdown (report : Report) (text : Config.ReportEntry) : String :=
  unlines (report.markdownLines text)

end DesignTokens.Report
