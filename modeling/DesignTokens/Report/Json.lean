import DesignTokens.Report.Basic

/-! # Reports as JSON

A report is written as JSON with one member or item on a line and two blanks for each level. Empty
objects and arrays stay on their line. In strings the quote, the backslash and control characters
are escaped, and nothing else.

## Main definitions

* `JsonText` - a value as it is written at a given level
* `Report.json` - the JSON of a report
-/

namespace DesignTokens

/-- A value as it is written at a given level. -/
abbrev JsonText := Nat → String

namespace JsonText

/-- The hexadecimal digit of a number below sixteen. -/
def hexDigit (n : Nat) : Char :=
  if n < 10 then Char.ofNat ('0'.toNat + n) else Char.ofNat ('a'.toNat + n - 10)

/-- A character as it is written in a string. -/
def escape (c : Char) : List Char :=
  match c with
  | '"' => ['\\', '"']
  | '\\' => ['\\', '\\']
  | '\x08' => ['\\', 'b']
  | '\t' => ['\\', 't']
  | '\n' => ['\\', 'n']
  | '\x0c' => ['\\', 'f']
  | '\r' => ['\\', 'r']
  | c =>
    if c.toNat < 0x20 then
      ['\\', 'u', '0', '0', hexDigit (c.toNat / 16), hexDigit (c.toNat % 16)]
    else [c]

/-- A string in quotes. -/
def quoted (s : String) : String :=
  String.ofList ('"' :: s.toList.flatMap escape ++ ['"'])

/-- A string. -/
def string (s : String) : JsonText := fun _ => quoted s

/-- A number. -/
def number (n : Nat) : JsonText := fun _ => toString n

/-- The start of a line at a level. -/
def indent (level : Nat) : String :=
  "\n" ++ String.ofList (List.replicate (2 * level) ' ')

/-- Items between brackets, each on a line of its own. -/
def bracketed (opening closing : String) (items : List JsonText) : JsonText := fun level =>
  if items.isEmpty then opening ++ closing
  else
    let written := items.map fun item => indent (level + 1) ++ item (level + 1)
    opening ++ String.intercalate "," written ++ indent level ++ closing

/-- An array. -/
def array (items : List JsonText) : JsonText :=
  bracketed "[" "]" items

/-- An object with its members in the given order. -/
def object (members : List (String × JsonText)) : JsonText :=
  bracketed "\x7b" "\x7d" (members.map fun (key, value) => fun level =>
    quoted key ++ ": " ++ value level)

end JsonText

namespace Report

open JsonText (string number array object)

/-- A finding, without the id of its rule if it has none. -/
def findingJson (f : Finding) : JsonText :=
  object <|
    [("file", string f.file.text), ("line", number f.line), ("kind", string f.kind.word)] ++
    (f.ruleId.map fun id => ("rule_id", string id)).toList ++
    [("description", string f.description), ("matched_text", string f.matched),
     ("snippet", string f.snippet)]

/-- The counts of a report. -/
def summaryJson (report : Report) : JsonText :=
  object
    [("mode", string report.mode.word),
     ("files_scanned", number report.filesScanned),
     ("files_with_issues", number report.totalFilesWithIssues),
     ("total_findings", number report.totalFindings),
     ("files_rewritten", number report.filesChanged.length),
     ("by_kind", object (report.countsByKind.map fun (kind, count) => (kind.word, number count)))]

/-- The JSON of a report. -/
def json (report : Report) : String :=
  object
    [("summary", report.summaryJson),
     ("files_changed", array (report.filesChanged.map fun p => string p.text)),
     ("findings", array (report.findings.map findingJson))] 0

end Report

end DesignTokens
