import DesignTokens.Toml.Quoted
import DesignTokens.Toml.Scalar

/-! # Reading documents

A document is a sequence of lines: headers, which say what table the following lines are about, and
keys with values.

## Main definitions

* `Toml.readValue` - reads a value
* `Toml.read` - reads a document
-/

namespace DesignTokens.Toml

/-! ### Layout -/

/-- Spaces and tabs. -/
def isSpace (c : Char) : Bool :=
  c = ' ' || c = '\t'

/-- A text without the spaces and tabs in front. -/
def skipSpaces (t : Text) : Text :=
  t.dropWhile isSpace

/-- What follows a comment, if one stands here, up to the end of its line. -/
def skipComment (t : Text) : Except Fault Text :=
  match t with
  | '#' :: rest =>
    let after := rest.dropWhile isPlain
    match after with
    | [] => .ok []
    | '\n' :: _ => .ok after
    | '\r' :: '\n' :: _ => .ok after
    | _ => .error .character
  | _ => .ok t

/-- What follows the rest of a line on which nothing but a comment may stand. -/
def endLine (t : Text) : Except Fault Text := do
  match ← skipComment (skipSpaces t) with
  | [] => return []
  | '\n' :: rest => return rest
  | '\r' :: '\n' :: rest => return rest
  | _ => .error .lineEnd

/-- A text without the spaces, line ends and comments in front. Every round takes a line, which
bounds their number. -/
def skipLines : Nat → Text → Except Fault Text
  | 0, t => .ok t
  | rounds + 1, t => do
    match ← skipComment (skipSpaces t) with
    | '\n' :: rest => skipLines rounds rest
    | '\r' :: '\n' :: rest => skipLines rounds rest
    | t => return t

/-! ### Keys -/

/-- The characters of a key that stands without quotes. -/
def isBareKeyChar (c : Char) : Bool :=
  c.isAlphanum || c = '_' || c = '-'

/-- One part of a key, with or without quotes. -/
def readSimpleKey (t : Text) : Except Fault (String × Text) :=
  match t with
  | '"' :: rest => readQuotedKey '"' rest
  | '\'' :: rest => readQuotedKey '\'' rest
  | _ =>
    let key := t.takeWhile isBareKeyChar
    if key.isEmpty then .error .key else .ok (String.ofList key, t.dropWhile isBareKeyChar)

/-- The number of levels that values may be nested, and of parts that a key may have. -/
def maxDepth : Nat := 80

/-- The parts of a key with points between them, at most a given number, and what follows them. -/
def readKeyParts : Nat → Text → Except Fault (List String × Text)
  | 0, _ => .error .tooDeep
  | parts + 1, t => do
    let (first, rest) ← readSimpleKey (skipSpaces t)
    match skipSpaces rest with
    | '.' :: rest =>
      let (more, rest) ← readKeyParts parts rest
      return (first :: more, rest)
    | rest => return ([first], rest)

/-- A key, and what follows it. -/
def readKey (t : Text) : Except Fault (List String × Text) :=
  readKeyParts maxDepth t

/-- The entries of a table with a value under a key of several parts. -/
def insertAt (key : List String) (value : Value) (origin : Origin) (entries : Entries) :
    Except Fault Value :=
  match key.reverse with
  | [] => .error .key
  | last :: path =>
    update (!path.isEmpty) (fun found entries => do
      if (found == .dottedKey) == !path.isEmpty then
        return .table found (← Entries.insertNew last value entries)
      else .error .duplicateKey) path.reverse origin entries

/-! ### Values -/

mutual

/-- Reads a value. The first number bounds the steps, of which each takes a character, and so the
lines as well; `depth` is the number of arrays and tables that are open. -/
def readValueFrom : Nat → Nat → Text → Except Fault (Value × Text)
  | 0, _, _ => .error .scalar
  | steps + 1, depth, t =>
    match t with
    | '"' :: rest => do
      let (s, rest) ← readString '"' rest
      return (.string s, rest)
    | '\'' :: rest => do
      let (s, rest) ← readString '\'' rest
      return (.string s, rest)
    | '[' :: rest =>
      if maxDepth ≤ depth then .error .tooDeep
      else do
        let (items, rest) ← readItems steps (depth + 1) rest
        return (.array false items, rest)
    | '{' :: rest =>
      if maxDepth ≤ depth then .error .tooDeep
      else do
        let (table, rest) ← readFields steps (depth + 1) [] rest
        return (.table .inline table, rest)
    | _ => readScalar t

/-- Reads the items of an array up to the closing bracket. -/
def readItems : Nat → Nat → Text → Except Fault (List Value × Text)
  | 0, _, _ => .error .arrayUnclosed
  | steps + 1, depth, t => do
    match ← skipLines (steps + 1) t with
    | [] => .error .arrayUnclosed
    | ']' :: rest => return ([], rest)
    | t =>
      let (item, rest) ← readValueFrom steps depth t
      match ← skipLines (steps + 1) rest with
      | ',' :: rest =>
        let (more, rest) ← readItems steps depth rest
        return (item :: more, rest)
      | ']' :: rest => return ([item], rest)
      | _ => .error .arrayUnclosed

/-- Reads the fields of a table in braces up to the closing brace. -/
def readFields : Nat → Nat → Entries → Text → Except Fault (Entries × Text)
  | 0, _, _, _ => .error .tableUnclosed
  | steps + 1, depth, entries, t => do
    match ← skipLines (steps + 1) t with
    | [] => .error .tableUnclosed
    | '}' :: rest => return (entries, rest)
    | t =>
      let (key, rest) ← readKey t
      match ← skipLines (steps + 1) rest with
      | '=' :: rest =>
        let (value, rest) ← readValueFrom steps depth (← skipLines (steps + 1) rest)
        let entries ←
          match ← insertAt key value .header entries with
          | .table _ entries => .ok entries
          | _ => .error .notATable
        match ← skipLines (steps + 1) rest with
        | ',' :: rest => readFields steps depth entries rest
        | '}' :: rest => return (entries, rest)
        | _ => .error .tableUnclosed
      | _ => .error .key

end

/-- Reads a value. -/
def readValue (t : Text) : Except Fault (Value × Text) :=
  readValueFrom (t.length + 1) 0 t

/-! ### Documents -/

/-- A header: the path of its table, and whether it is in double brackets. -/
def readHeader (t : Text) : Except Fault (List String × Bool × Text) :=
  match t with
  | '[' :: '[' :: rest => do
    let (path, rest) ← readKey rest
    match rest with
    | ']' :: ']' :: rest => return (path, true, rest)
    | _ => .error .header
  | '[' :: rest => do
    let (path, rest) ← readKey rest
    match rest with
    | ']' :: rest => return (path, false, rest)
    | _ => .error .header
  | _ => .error .header

/-- The entries of a document with the table of a header opened in them. A table may be opened once,
but not after a dotted key has made it. -/
def openTable (path : List String) (inArray : Bool) (root : Entries) : Except Fault Entries := do
  match path.reverse with
  | [] => .error .header
  | last :: parents =>
    let table ← update false (fun origin entries => do
      let entries ← Entries.alter last (fun found =>
        if inArray then
          match found with
          | none => .ok (.array true [.table .header []])
          | some (.array true items) => .ok (.array true (items ++ [.table .header []]))
          | some _ => .error .duplicateKey
        else
          match found with
          | none => .ok (.table .header [])
          -- Only a table that other headers led through can still be opened.
          | some (.table .headerPath entries) => .ok (.table .header entries)
          | some _ => .error .duplicateKey) entries
      return .table origin entries) parents.reverse .header root
    match table with
    | .table _ entries => return entries
    | _ => .error .notATable

/-- The entries of a document with a value under a key of the table at `path`. -/
def insertIn (path key : List String) (value : Value) (root : Entries) : Except Fault Entries := do
  match ← update false (insertAt key value) path .header root with
  | .table _ entries => return entries
  | _ => .error .notATable

/-- Reads a document line by line, where `path` leads to the table that the lines are about. Every
round takes a line, which bounds their number. -/
def readFrom : Nat → List String → Entries → Text → Except Fault Entries
  | 0, _, root, _ => .ok root
  | rounds + 1, path, root, t => do
    match ← skipLines t.length t with
    | [] => return root
    | '[' :: rest =>
      let (path, inArray, rest) ← readHeader ('[' :: rest)
      readFrom rounds path (← openTable path inArray root) (← endLine rest)
    | t =>
      let (key, rest) ← readKey t
      match rest with
      | '=' :: rest =>
        let (value, rest) ← readValue (skipSpaces rest)
        readFrom rounds path (← insertIn path key value root) (← endLine rest)
      | _ => .error .key

/-- Reads a document. A mark of byte order in front does not count. -/
def read (t : Text) : Except Fault Entries :=
  let t :=
    match t with
    | c :: rest => if c.toNat = 0xFEFF then rest else t
    | [] => t
  readFrom (t.length + 1) [] [] t

end DesignTokens.Toml
