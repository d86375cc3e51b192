import DesignTokens.Pattern.Reader
import DesignTokens.Toml.Value

/-! # Strings of documents

A string in double quotes has escapes, one in single quotes has none; in three quotes either may go
over several lines. A line end right after three opening quotes does not count, and up to two
quotes may stand in front of three closing ones.

## Main definitions

* `Toml.readString` - reads a string from its opening quote on
* `Toml.readQuotedKey` - reads a string that stands for a key, which has one line
-/

namespace DesignTokens.Toml

open Pattern (hexNumber? charOfCode?)

/-- The characters that may stand in comments and strings: no control characters but the tab. -/
def isPlain (c : Char) : Bool :=
  c = '\t' || (0x20 ≤ c.toNat && c.toNat != 0x7F)

/-- A character by `n` hexadecimal digits, and what follows them. -/
def readCode (n : Nat) (t : Text) : Except Fault (Char × Text) :=
  let digits := t.take n
  if digits.length < n then .error .escape
  else
    match (hexNumber? digits).bind charOfCode? with
    | some c => .ok (c, t.drop n)
    | none => .error .escape

/-- The character of an escape, and what follows it. -/
def readEscape (t : Text) : Except Fault (Char × Text) :=
  match t with
  | 'b' :: rest => .ok ('\x08', rest)
  | 't' :: rest => .ok ('\t', rest)
  | 'n' :: rest => .ok ('\n', rest)
  | 'f' :: rest => .ok ('\x0c', rest)
  | 'r' :: rest => .ok ('\r', rest)
  | 'e' :: rest => .ok ('\x1b', rest)
  | '"' :: rest => .ok ('"', rest)
  | '\\' :: rest => .ok ('\\', rest)
  | 'x' :: rest => readCode 2 rest
  | 'u' :: rest => readCode 4 rest
  | 'U' :: rest => readCode 8 rest
  | _ => .error .escape

/-- A text without the blanks and line ends in front. -/
def skipBlankLines : Text → Text
  | '\r' :: '\n' :: rest => skipBlankLines rest
  | c :: rest => if c = ' ' || c = '\t' || c = '\n' then skipBlankLines rest else c :: rest
  | [] => []

/-- What follows the end of a line, after a backslash that joins it to the next: the first text
that is not blank. -/
def joinLines? (t : Text) : Option Text :=
  let rest := t.dropWhile fun c => c = ' ' || c = '\t'
  match rest with
  | '\n' :: _ => some (skipBlankLines rest)
  | '\r' :: '\n' :: _ => some (skipBlankLines rest)
  | _ => none

/-- Reads the characters of a string of one line up to the closing quote. Every round takes a
character, which bounds their number. -/
def readLine (quote : Char) : Nat → Text → Except Fault (Text × Text)
  | 0, _ => .error .stringUnclosed
  | _ + 1, [] => .error .stringUnclosed
  | rounds + 1, c :: rest =>
    if c = quote then .ok ([], rest)
    else if c = '\\' && quote = '"' then do
      let (escaped, rest) ← readEscape rest
      let (more, rest) ← readLine quote rounds rest
      return (escaped :: more, rest)
    else if isPlain c then do
      let (more, rest) ← readLine quote rounds rest
      return (c :: more, rest)
    else .error .character

/-- Reads the characters of a string of several lines up to three closing quotes. -/
def readLines (quote : Char) : Nat → Text → Except Fault (Text × Text)
  | 0, _ => .error .stringUnclosed
  | _ + 1, [] => .error .stringUnclosed
  | rounds + 1, c :: rest =>
    if c = quote then
      let quotes := (c :: rest).takeWhile (· = quote)
      if quotes.length < 3 then do
        let (more, rest) ← readLines quote rounds rest
        return (c :: more, rest)
      else
        -- Two more quotes at most belong to the string that the last three close.
        let extra := min (quotes.length - 3) 2
        .ok (List.replicate extra quote, (c :: rest).drop (3 + extra))
    else if c = '\\' && quote = '"' then
      match joinLines? rest with
      | some rest => readLines quote rounds rest
      | none => do
        let (escaped, rest) ← readEscape rest
        let (more, rest) ← readLines quote rounds rest
        return (escaped :: more, rest)
    -- A carriage return is a part of a line end only.
    else if c = '\r' && rest.head? != some '\n' then .error .character
    else if isPlain c || c = '\n' || c = '\r' then do
      let (more, rest) ← readLines quote rounds rest
      return (c :: more, rest)
    else .error .character

/-- A text without the line end in front. -/
def dropLineEnd (t : Text) : Text :=
  match t with
  | '\n' :: rest => rest
  | '\r' :: '\n' :: rest => rest
  | _ => t

/-- Reads a string of one line after its opening quote. -/
def readQuotedKey (quote : Char) (rest : Text) : Except Fault (String × Text) := do
  let (s, rest) ← readLine quote (rest.length + 1) rest
  return (String.ofList s, rest)

/-- Reads a string after its opening quote. -/
def readString (quote : Char) (rest : Text) : Except Fault (String × Text) :=
  match Text.after? [quote, quote] rest with
  | some rest => do
    let rest := dropLineEnd rest
    let (s, rest) ← readLines quote (rest.length + 1) rest
    return (String.ofList s, rest)
  | none => readQuotedKey quote rest

end DesignTokens.Toml
