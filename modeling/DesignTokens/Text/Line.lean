import DesignTokens.Text.Basic

/-! # Lines

A line ends with a line feed, or with a carriage return and a line feed; the last line of a text
may have no end.

## Main definitions

* `Text.rawLines` - the lines of a text, each with its end; together they are the text
* `Text.lines` - the lines of a text without their ends
* `Text.lineAt` - the number of the line that an offset lies in, counted from one
* `Text.splitLineEnd?` - a text cut before the end of its first line
-/

namespace DesignTokens.Text

/-- The lines of a text, each with its end. -/
def rawLines : Text → List Text
  | [] => []
  | c :: rest =>
    if c = '\n' then [c] :: rawLines rest else consFirst c (rawLines rest)

/-- A line without its end. A carriage return counts as part of the end only before a line feed. -/
def withoutEnd (line : Text) : Text :=
  match line.reverse with
  | '\n' :: '\r' :: rest => rest.reverse
  | '\n' :: rest => rest.reverse
  | _ => line

/-- The lines of a text without their ends. -/
def lines (t : Text) : List Text :=
  t.rawLines.map withoutEnd

/-- The number of line feeds in a text. -/
def lineFeeds (t : Text) : Nat :=
  t.count '\n'

/-- The number of the line that the byte at `offset` lies in, counted from one. An offset past the
end stands for the end. -/
def lineAt (source : Text) (offset : Nat) : Nat :=
  lineFeeds (takeBytes offset source) + 1

/-- A text cut before the end of its first line, if that line has one. -/
def splitLineEnd? : Text → Option (Text × Text)
  | [] => none
  | '\n' :: rest => some ([], '\n' :: rest)
  | '\r' :: '\n' :: rest => some ([], '\r' :: '\n' :: rest)
  | c :: rest => (splitLineEnd? rest).map fun (line, after) => (c :: line, after)

/-- The line end that a text uses: with carriage returns as soon as one line has one. -/
def lineEnd (t : Text) : Text :=
  if hasPart ['\r', '\n'] t then ['\r', '\n'] else ['\n']

end DesignTokens.Text
