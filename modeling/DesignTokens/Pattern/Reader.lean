import DesignTokens.Pattern.Expr

/-! # Reading patterns

The written form of patterns: literals and escapes, the dot and the anchors, bracketed classes with
set operations, groups with names and flags, repetitions with counts. Under the flag `x` blanks and
comments between the parts are passed over.

## Main definitions

* `Pattern.Fault` - why a text is not a pattern
* `Pattern.Flags` - the flags in force at a place of a pattern
* `Pattern.readExpr` - the expression a text stands for, with the names of its groups
-/

namespace DesignTokens.Pattern

open Character

/-- Why a text is not a pattern. -/
inductive Fault where
  | groupUnclosed
  | groupUnopened
  | groupName
  | repeatedGroupName
  | flag
  | lookAround
  | backReference
  | nothingToRepeat
  | repetitionCount
  | escape
  | hexEscape
  | wordBoundaryName
  | classUnclosed
  | classRange
  | classEscape
  | unknownProperty
  /-- A class of bytes, under a flag that leaves characters out of account, that is not ASCII. -/
  | notAscii
  | tooDeep
  | tooLarge
  deriving Repr, DecidableEq

/-- The flags in force at a place of a pattern. -/
structure Flags where
  /-- `i`: letters stand for all that differ by case only. -/
  anyCase : Bool := false
  /-- `m`: the anchors hold at every line. -/
  multiLine : Bool := false
  /-- `s`: the dot accepts line ends. -/
  dotAll : Bool := false
  /-- `U`: repetitions prefer fewer rounds unless marked. -/
  swapGreed : Bool := false
  /-- `u`: classes and boundaries know all characters, not only ASCII. -/
  wide : Bool := true
  /-- `R`: a carriage return ends a line too. -/
  anyLineEnd : Bool := false
  /-- `x`: blanks and comments are passed over. -/
  layout : Bool := false
  deriving Repr, DecidableEq

namespace Flags

/-- The flags with the one of a letter switched on or off. -/
def set? (flags : Flags) (letter : Char) (on : Bool) : Option Flags :=
  match letter with
  | 'i' => some { flags with anyCase := on }
  | 'm' => some { flags with multiLine := on }
  | 's' => some { flags with dotAll := on }
  | 'U' => some { flags with swapGreed := on }
  | 'u' => some { flags with wide := on }
  | 'R' => some { flags with anyLineEnd := on }
  | 'x' => some { flags with layout := on }
  | _ => none

end Flags

/-! ### Layout -/

/-- A text without the blanks and comments in front; a comment goes from `#` to the end of its
line. -/
def skipLayout (inComment : Bool) : Text → Text
  | [] => []
  | c :: rest =>
    if inComment then skipLayout (c != '\n') rest
    else if isBlank c then skipLayout false rest
    else if c = '#' then skipLayout true rest
    else c :: rest

/-- A text without the blanks and comments in front, if these are passed over. -/
def skip (layout : Bool) (t : Text) : Text :=
  if layout then skipLayout false t else t

/-- The first character that is neither a blank nor the mark of a comment. Of comments it knows the
mark only, so that the first character of a comment counts. -/
def firstInked (inComment : Bool) : Text → Option Char
  | [] => none
  | c :: rest =>
    if isBlank c then firstInked inComment rest
    else if c = '#' && !inComment then firstInked true rest
    else some c

/-- The character that decides whether a hyphen in front of it makes a range. -/
def peek (layout : Bool) (t : Text) : Option Char :=
  if layout then (firstInked false t).or t.head? else t.head?

/-- The first characters of a class, with layout passed over after each. -/
def takeSpaced (layout : Bool) (p : Char → Bool) : Nat → Text → Text × Text
  | 0, t => ([], t)
  | _ + 1, [] => ([], [])
  | n + 1, c :: rest =>
    if p c then
      let (more, after) := takeSpaced layout p n (skip layout rest)
      (c :: more, after)
    else ([], c :: rest)

/-! ### Numbers -/

/-- The value of a hexadecimal digit. -/
def hexValue? (c : Char) : Option Nat :=
  if c.isDigit then some (c.toNat - '0'.toNat)
  else if 'a'.toNat ≤ c.toNat && c.toNat ≤ 'f'.toNat then some (c.toNat - 'a'.toNat + 10)
  else if 'A'.toNat ≤ c.toNat && c.toNat ≤ 'F'.toNat then some (c.toNat - 'A'.toNat + 10)
  else none

/-- The value of a list of hexadecimal digits. -/
def hexNumber? (digits : Text) : Option Nat :=
  digits.foldlM (fun n c => (hexValue? c).map (n * 16 + ·)) 0

/-- The value of a list of decimal digits. -/
def decimalNumber (digits : Text) : Nat :=
  digits.foldl (fun n c => n * 10 + (c.toNat - '0'.toNat)) 0

/-- The character with a code point. -/
def charOfCode? (n : Nat) : Option Char :=
  if n < 0xD800 || (0xDFFF < n && n < 0x110000) then some (Char.ofNat n) else none

/-- A count of rounds: digits with blanks around them, or nothing. -/
def readCount (layout : Bool) (t : Text) : Except Fault (Option Nat × Text) :=
  let t := t.dropWhile isBlank
  let (digits, rest) := takeSpaced layout Char.isDigit t.length t
  let (_, rest) := takeSpaced layout isBlank rest.length rest
  if digits.isEmpty then .ok (none, rest)
  else if decimalNumber digits < 0x100000000 then .ok (some (decimalNumber digits), rest)
  else .error .repetitionCount

/-! ### Escapes -/

/-- What stands at one place of a pattern. -/
inductive Primitive where
  | literal (c : Char)
  | named (members : CharClass)
  | look (condition : Look)
  deriving Repr, DecidableEq

/-- Exactly `n` hexadecimal digits. -/
def hexDigits (layout : Bool) : Nat → Text → Except Fault (Text × Text)
  | 0, t => .ok ([], t)
  | _ + 1, [] => .error .hexEscape
  | n + 1, c :: rest =>
    if (hexValue? c).isSome then do
      let (more, after) ← hexDigits layout n (skip layout rest)
      return (c :: more, after)
    else .error .hexEscape

/-- The character with the code point that digits stand for. -/
def hexChar (digits : Text) : Except Fault Char :=
  match (hexNumber? digits).bind charOfCode? with
  | some c => .ok c
  | none => .error .hexEscape

/-- A character by its code point: in braces, or in `size` digits. Two digits stand for a byte
where only ASCII is known. -/
def readHex (flags : Flags) (size : Nat) (t : Text) : Except Fault (Primitive × Text) :=
  match skip flags.layout t with
  | '{' :: rest =>
    let rest := skip flags.layout rest
    let (digits, rest) := takeSpaced flags.layout (· ≠ '}') rest.length rest
    match rest with
    | [] => .error .hexEscape
    | _ :: rest => do
      if digits.isEmpty then .error .hexEscape
      else
        let c ← hexChar digits
        return (.literal c, skip flags.layout rest)
  | rest => do
    let (digits, rest) ← hexDigits flags.layout size rest
    let c ← hexChar digits
    if !flags.wide && size = 2 && 128 ≤ c.toNat then .error .notAscii
    else return (.literal c, rest)

/-- A class as the flags have it: with other cases, or the class of all other characters. -/
def finishClass (flags : Flags) (negated : Bool) (members : CharClass) : Except Fault CharClass :=
  if flags.wide then
    let members := if flags.anyCase then Character.anyCase members else members
    .ok (if negated then members.complement else members)
  else if negated then .error .notAscii
  else .ok (if flags.anyCase then members.anyAsciiCase else members)

/-- A class of characters with a property, by a name in braces or of one letter. -/
def readProperty (flags : Flags) (negated : Bool) (t : Text) : Except Fault (Primitive × Text) := do
  let (name, rest) ←
    match skip flags.layout t with
    | [] => .error .escape
    | '{' :: rest =>
      let rest := skip flags.layout rest
      let (name, rest) := takeSpaced flags.layout (· ≠ '}') rest.length rest
      match rest with
      | [] => .error .escape
      | _ :: rest => .ok (name, rest)
    | '\\' :: _ => .error .unknownProperty
    | c :: rest => .ok ([c], skip flags.layout rest)
  if !flags.wide then .error .notAscii
  else
    match CharClass.ofProperty? name with
    | none => .error .unknownProperty
    | some (members, outside) =>
      return (.named (← finishClass flags (negated != outside) members), rest)

/-- The class of an escape such as `\d`, and whether it is negated, by its letter. -/
def shorthand (wide : Bool) (letter : Char) : CharClass :=
  match letter.toLower with
  | 'd' => if wide then Category.decimalNumberTable else .between [('0', '9')]
  | 's' => if wide then Property.whiteSpace.table else .between [('\t', '\r'), (' ', ' ')]
  | _ => if wide then wordTable else .between [('0', '9'), ('A', 'Z'), ('_', '_'), ('a', 'z')]

/-- The characters that mean something of their own in patterns. -/
def isMeta (c : Char) : Bool :=
  "\\.+*?()|[]\x7b\x7d^$#&-~".toList.contains c

/-- The characters that stand for themselves after a backslash. -/
def isEscapable (c : Char) : Bool :=
  isMeta c || (c.toNat < 128 && !c.isAlphanum && c != '<' && c != '>')

/-- A boundary of words, with the name of a kind in braces after it. Braces around anything but a
name are left for a count of rounds. -/
def readBoundary (flags : Flags) (t : Text) : Except Fault (Primitive × Text) :=
  let ascii := !flags.wide
  let isNameChar (c : Char) : Bool := c.isAlpha || c = '-'
  match t with
  | '{' :: rest =>
    let rest := skip flags.layout rest
    match rest with
    | [] => .error .wordBoundaryName
    | c :: _ =>
      if !isNameChar c then .ok (.look (.wordBoundary ascii), t)
      else
        let (name, rest) := takeSpaced flags.layout isNameChar rest.length rest
        match rest with
        | '}' :: rest =>
          match String.ofList name with
          | "start" => .ok (.look (.wordSides ascii (some false) (some true)), rest)
          | "end" => .ok (.look (.wordSides ascii (some true) (some false)), rest)
          | "start-half" => .ok (.look (.wordSides ascii (some false) none), rest)
          | "end-half" => .ok (.look (.wordSides ascii none (some false)), rest)
          | _ => .error .wordBoundaryName
        | _ => .error .wordBoundaryName
  | _ => .ok (.look (.wordBoundary ascii), t)

/-- What follows a backslash. -/
def readEscape (flags : Flags) (t : Text) : Except Fault (Primitive × Text) :=
  let ascii := !flags.wide
  match t with
  | [] => .error .escape
  | c :: rest =>
    if c.isDigit then .error .backReference
    else
      match c with
      | 'x' => readHex flags 2 rest
      | 'u' => readHex flags 4 rest
      | 'U' => readHex flags 8 rest
      | 'p' => readProperty flags false rest
      | 'P' => readProperty flags true rest
      | 'a' => .ok (.literal '\x07', rest)
      | 'f' => .ok (.literal '\x0c', rest)
      | 't' => .ok (.literal '\t', rest)
      | 'n' => .ok (.literal '\n', rest)
      | 'r' => .ok (.literal '\r', rest)
      | 'v' => .ok (.literal '\x0b', rest)
      | 'A' => .ok (.look .textStart, rest)
      | 'z' => .ok (.look .textEnd, rest)
      | 'b' => readBoundary flags rest
      | 'B' => .ok (.look (.noWordBoundary ascii), rest)
      | '<' => .ok (.look (.wordSides ascii (some false) (some true)), rest)
      | '>' => .ok (.look (.wordSides ascii (some true) (some false)), rest)
      | _ =>
        if "dswDSW".toList.contains c then
          if c.isUpper then
            -- Without wide characters the complement has bytes that are no characters.
            if flags.wide then .ok (.named (shorthand true c).complement, rest)
            else .error .notAscii
          else .ok (.named (shorthand flags.wide c), rest)
        else if isEscapable c then .ok (.literal c, rest)
        else .error .escape

/-! ### Bracketed classes -/

/-- The operations between classes. -/
inductive ClassOp where
  | inter
  | diff
  | symmDiff
  deriving Repr, DecidableEq

/-- The class that an operation makes of two, with other cases where the flags want them. -/
def ClassOp.apply (op : ClassOp) (flags : Flags) (a b : CharClass) : CharClass :=
  let cased (members : CharClass) : CharClass :=
    if flags.anyCase then
      if flags.wide then Character.anyCase members else members.anyAsciiCase
    else members
  match op with
  | inter => (cased a).inter (cased b)
  | diff => (cased a).diff (cased b)
  | symmDiff => (cased a).symmDiff (cased b)

/-- A part of a bracketed class with the number of levels it is nested. -/
structure ClassPart where
  members : CharClass
  depth : Nat
  deriving Repr, DecidableEq

/-- The class of a part that is not nested. -/
def ClassPart.flat (members : CharClass) : ClassPart :=
  ⟨members, 0⟩

/-- Several parts as one: a single part is itself, more are one level up. -/
def ClassPart.ofParts : List ClassPart → ClassPart
  | [part] => part
  | parts =>
    ⟨RangeTable.unionAll (parts.map (·.members)), parts.foldl (fun d p => max d (p.depth + 1)) 0⟩

/-- What is open while a bracketed class is read: a bracket, with the parts of the class around it
read so far, or an operation with its left side. -/
inductive ClassFrame where
  | bracket (outer : List ClassPart) (negated : Bool)
  | operation (op : ClassOp) (left : ClassPart)
  deriving Repr, DecidableEq

/-- Reads hyphens in front as members. -/
def leadingHyphens (layout : Bool) : Nat → Text → Text × Text
  | n, t => takeSpaced layout (· = '-') n t

/-- What follows an opening bracket up to the first member that needs no special rule: a caret
negates, hyphens and then a closing bracket in the first place stand for themselves. -/
def openClass (layout : Bool) (t : Text) : Except Fault (Bool × List ClassPart × Text) :=
  let t := skip layout t
  let (negated, t) :=
    match t with
    | '^' :: rest => (true, skip layout rest)
    | _ => (false, t)
  let (hyphens, t) := leadingHyphens layout t.length t
  let parts := hyphens.map fun c => ClassPart.flat (.char c)
  match t with
  | [] => .error .classUnclosed
  | c :: rest =>
    -- A closing bracket at the start of a class stands for itself.
    if parts.isEmpty && c = ']' then
      match skip layout rest with
      | [] => .error .classUnclosed
      | t => .ok (negated, [.flat (.char ']')], t)
    else .ok (negated, parts, t)

/-- A named ASCII class such as `[:alpha:]`, from its opening bracket on. -/
def readPosix? (t : Text) : Option (Bool × CharClass × Text) :=
  match Text.after? ['[', ':'] t with
  | none => none
  | some rest =>
    let (negated, rest) :=
      match rest with
      | '^' :: rest => (true, rest)
      | _ => (false, rest)
    match Text.after? [':', ']'] (rest.dropWhile (· ≠ ':')) with
    | none => none
    | some after =>
      (CharClass.ofPosix? (String.ofList (rest.takeWhile (· ≠ ':')))).map (negated, ·, after)

/-- One character or escape of a bracketed class. -/
def readMember (flags : Flags) (t : Text) : Except Fault (Primitive × Text) :=
  match t with
  | [] => .error .classUnclosed
  | '\\' :: rest => readEscape flags rest
  | c :: rest => .ok (.literal c, rest)

/-- The class of one literal; where only ASCII is known it has to be ASCII. -/
def literalCode (flags : Flags) (c : Char) : Except Fault Nat :=
  if !flags.wide && 128 ≤ c.toNat then .error .notAscii else .ok c.toNat

/-- A member of a bracketed class: a literal, an escape or a range. -/
def readRange (flags : Flags) (t : Text) : Except Fault (CharClass × Text) := do
  let (first, rest) ← readMember flags t
  let rest := skip flags.layout rest
  let single : Except Fault (CharClass × Text) :=
    match first with
    | .literal c => do
      let n ← literalCode flags c
      return (.single n n, rest)
    | .named members => .ok (members, rest)
    | .look _ => .error .classEscape
  match rest with
  | [] => .error .classUnclosed
  | '-' :: after =>
    -- A hyphen in front of a closing bracket or another hyphen makes no range.
    if peek flags.layout after = some ']' || peek flags.layout after = some '-' then single
    else
      match skip flags.layout after with
      | [] => .error .classUnclosed
      | more => do
        let (last, rest) ← readMember flags more
        match first, last with
        | .literal lo, .literal hi => do
          let m ← literalCode flags lo
          let n ← literalCode flags hi
          if m ≤ n then return (.single m n, rest) else .error .classRange
        | _, _ => .error .classRange
  | _ => single

/-- The class of the parts read since the last operation, taken together with the operation in
front of them. -/
def applyPending (flags : Flags) (parts : List ClassPart) (stack : List ClassFrame) :
    ClassPart × List ClassFrame :=
  let right := ClassPart.ofParts parts.reverse
  match stack with
  | .operation op left :: rest =>
    (⟨op.apply flags left.members right.members, max left.depth right.depth + 1⟩, rest)
  | _ => (right, stack)

/-- Reads a bracketed class from one part to the next. Every round takes a character, which bounds
their number. -/
def readClassFrom (flags : Flags) :
    Nat → List ClassPart → List ClassFrame → Text → Except Fault (ClassPart × Text)
  | 0, _, _, _ => .error .classUnclosed
  | rounds + 1, parts, stack, t =>
    match skip flags.layout t with
    | [] => .error .classUnclosed
    | '[' :: rest =>
      -- Named classes are read within brackets only.
      match if stack.isEmpty then none else readPosix? ('[' :: rest) with
      | some (negated, named, rest) => do
        let named ← finishClass flags negated named
        readClassFrom flags rounds (.flat named :: parts) stack rest
      | none => do
        let (negated, first, rest) ← openClass flags.layout rest
        readClassFrom flags rounds first.reverse (.bracket parts negated :: stack) rest
    | ']' :: rest =>
      let (inner, stack) := applyPending flags parts stack
      match stack with
      | .bracket outer negated :: stack => do
        let whole : ClassPart := ⟨← finishClass flags negated inner.members, inner.depth + 1⟩
        if stack.isEmpty then return (whole, rest)
        else readClassFrom flags rounds (whole :: outer) stack rest
      | _ => .error .classUnclosed
    | '&' :: '&' :: rest => readOperation rounds parts stack .inter rest
    | '-' :: '-' :: rest => readOperation rounds parts stack .diff rest
    | '~' :: '~' :: rest => readOperation rounds parts stack .symmDiff rest
    | t => do
      let (members, rest) ← readRange flags t
      readClassFrom flags rounds (.flat members :: parts) stack rest
where
  /-- Puts an operation with its left side on the stack. -/
  readOperation (rounds : Nat) (parts : List ClassPart) (stack : List ClassFrame) (op : ClassOp)
      (rest : Text) : Except Fault (ClassPart × Text) :=
    let (left, stack) := applyPending flags parts stack
    readClassFrom flags rounds [] (.operation op left :: stack) rest

/-- A bracketed class, from its opening bracket on. -/
def readClass (flags : Flags) (t : Text) : Except Fault (ClassPart × Text) :=
  readClassFrom flags (t.length + 1) [] [] t

/-! ### Groups -/

/-- What an opening parenthesis begins. -/
inductive Opening where
  | capture (name : Option String)
  | plain (flags : Flags)
  | setting (flags : Flags)
  deriving Repr, DecidableEq

/-- The characters of the name of a group. -/
def isGroupNameChar (first : Bool) (c : Char) : Bool :=
  if first then c = '_' || isAlphabetic c
  else c = '_' || c = '.' || c = '[' || c = ']' || isAlphanumeric c

/-- The name of a group up to the bracket that ends it. -/
def readGroupName (t : Text) : Except Fault (String × Text) :=
  let name := t.takeWhile (· ≠ '>')
  match name, t.dropWhile (· ≠ '>') with
  | c :: more, _ :: rest =>
    if isGroupNameChar true c && more.all (isGroupNameChar false) then
      .ok (String.ofList name, rest)
    else .error .groupName
  | _, _ => .error .groupName

/-- Flags up to the character that ends them, each at most once; those after a hyphen are switched
off. -/
def readFlags (seen : Text) (on : Bool) (flags : Flags) : Text → Except Fault (Bool × Flags × Text)
  | [] => .error .flag
  | c :: rest =>
    if c = ':' || c = ')' then
      if seen.head? = some '-' then .error .flag
      else if c = ')' && seen.isEmpty then .error .nothingToRepeat
      else .ok (c = ')', flags, rest)
    else if seen.contains c then .error .flag
    else if c = '-' then readFlags (c :: seen) false flags rest
    else
      match flags.set? c on with
      | some flags => readFlags (c :: seen) on flags rest
      | none => .error .flag

/-- What follows an opening parenthesis. -/
def readOpening (flags : Flags) (t : Text) : Except Fault (Opening × Text) :=
  match skip flags.layout t with
  | '?' :: 'P' :: '<' :: rest => do
    let (name, rest) ← readGroupName rest
    return (.capture (some name), rest)
  | '?' :: '=' :: _ => .error .lookAround
  | '?' :: '!' :: _ => .error .lookAround
  | '?' :: '<' :: '=' :: _ => .error .lookAround
  | '?' :: '<' :: '!' :: _ => .error .lookAround
  | '?' :: '<' :: rest => do
    let (name, rest) ← readGroupName rest
    return (.capture (some name), rest)
  | '?' :: rest => do
    let (isSetting, flags, rest) ← readFlags [] true flags rest
    return (if isSetting then .setting flags else .plain flags, rest)
  | rest => .ok (.capture none, rest)

/-! ### Expressions -/

/-- An expression with the number of levels it is nested. -/
structure Nested where
  expr : Expr
  depth : Nat
  deriving Repr, DecidableEq

/-- Several parts as one: a single part is itself, more are one level up. -/
def Nested.ofParts (combine : List Expr → Expr) (parts : List Nested) : Nested :=
  match parts with
  | [part] => part
  | _ => ⟨combine (parts.map (·.expr)), parts.foldl (fun d p => max d (p.depth + 1)) 0⟩

/-- What is read of a group: the parts of the current branch and the branches before it, both last
first. A part has no expression where flags were set, as nothing can be repeated there. -/
structure Branches where
  parts : List (Option Nested)
  done : List Nested
  deriving Repr, DecidableEq

namespace Branches

/-- A group of which nothing is read. -/
def start : Branches := ⟨[], []⟩

/-- A further part of the current branch. -/
def push (b : Branches) (part : Nested) : Branches :=
  { b with parts := some part :: b.parts }

/-- The current branch. -/
def current (b : Branches) : Nested :=
  .ofParts Expr.concat (b.parts.reverse.map (·.getD ⟨.empty, 0⟩))

/-- The start of the next branch. -/
def next (b : Branches) : Branches :=
  ⟨[], b.current :: b.done⟩

/-- All branches. -/
def close (b : Branches) : Nested :=
  .ofParts Expr.choice (b.current :: b.done).reverse

end Branches

/-- A group that is open: what was read around it, the number its text is kept under, if it is, and
the flags that are in force again after it. -/
structure GroupFrame where
  outer : Branches
  index : Option Nat
  flags : Flags
  deriving Repr, DecidableEq

/-- What is read so far: the flags in force, the branches of the innermost group, the groups around
it, the number of groups whose text is kept, and the names of those that have one. -/
structure Progress where
  flags : Flags := {}
  branches : Branches := .start
  enclosing : List GroupFrame := []
  groups : Nat := 0
  names : List (String × Nat) := []
  deriving Repr, DecidableEq

namespace Progress

/-- One more part at the current place. -/
def push (p : Progress) (part : Nested) : Progress :=
  { p with branches := p.branches.push part }

/-- The expression of one character or class. -/
def literal (p : Progress) (c : Char) : Expr :=
  if p.flags.anyCase then
    let members := CharClass.char c
    .ofClass (if p.flags.wide then Character.anyCase members else members.anyAsciiCase)
  else .literal [c]

/-- The expression of a primitive. -/
def primitive (p : Progress) : Primitive → Expr
  | .literal c => p.literal c
  | .named members => .ofClass members
  | .look condition => .look condition

/-- The expression of a dot: any character but the ends of lines. -/
def dot (flags : Flags) : Except Fault Expr :=
  if !flags.wide then .error .notAscii
  else if flags.dotAll then .ok (.one .full)
  else if flags.anyLineEnd then
    .ok (.one (CharClass.between [('\n', '\n'), ('\r', '\r')]).complement)
  else .ok (.one (CharClass.char '\n').complement)

/-- The condition of a caret. -/
def caret (flags : Flags) : Look :=
  if !flags.multiLine then .textStart
  else if flags.anyLineEnd then .lineStartAnyEnd else .lineStart

/-- The condition of a dollar sign. -/
def dollar (flags : Flags) : Look :=
  if !flags.multiLine then .textEnd
  else if flags.anyLineEnd then .lineEndAnyEnd else .lineEnd

/-- Repeats the last part. -/
def repeatLast (p : Progress) (least : Nat) (most : Option Nat) (greedy : Bool) :
    Except Fault Progress :=
  match p.branches.parts with
  | some part :: rest =>
    let expr := part.expr.repeated least most (greedy != p.flags.swapGreed)
    let part := ⟨expr, part.depth + 1⟩
    .ok { p with branches := { p.branches with parts := some part :: rest } }
  | _ => .error .nothingToRepeat

/-- Whether a last part can be repeated. -/
def canRepeat (p : Progress) : Bool :=
  p.branches.parts.head?.any Option.isSome

/-- Opens a group or sets flags. -/
def opened (p : Progress) : Opening → Except Fault Progress
  | .setting flags =>
    .ok { p with flags, branches := { p.branches with parts := none :: p.branches.parts } }
  | .plain flags =>
    let enclosing := ⟨p.branches, none, p.flags⟩ :: p.enclosing
    .ok { p with flags, branches := .start, enclosing }
  | .capture name =>
    let index := p.groups + 1
    let p' : Progress :=
      { p with branches := .start, enclosing := ⟨p.branches, some index, p.flags⟩ :: p.enclosing,
               groups := index }
    match name with
    | none => .ok p'
    | some name =>
      if p.names.any (·.1 = name) then .error .repeatedGroupName
      else .ok { p' with names := p.names ++ [(name, index)] }

/-- Closes the innermost group. -/
def closed (p : Progress) : Except Fault Progress :=
  match p.enclosing with
  | [] => .error .groupUnopened
  | frame :: rest =>
    let body := p.branches.close
    let part : Nested :=
      match frame.index with
      | some index => ⟨.group index body.expr, body.depth + 1⟩
      | none => ⟨body.expr, body.depth + 1⟩
    .ok { p with flags := frame.flags, branches := frame.outer.push part, enclosing := rest }

end Progress

/-- Whether a repetition is marked to prefer fewer rounds. -/
def readLazyMark (t : Text) : Bool × Text :=
  match t with
  | '?' :: rest => (true, rest)
  | _ => (false, t)

/-- Counts of rounds, from the character after the opening brace up to the closing one. The least
number has to be there. -/
def readCounts (layout : Bool) (t : Text) : Except Fault (Nat × Option Nat × Text) := do
  let (least, rest) ← readCount layout (skip layout t)
  match least, rest with
  | some least, ',' :: rest =>
    match skip layout rest with
    | '}' :: rest => return (least, none, rest)
    | rest =>
      let (most, rest) ← readCount layout rest
      match most, rest with
      | some most, '}' :: rest =>
        if least ≤ most then return (least, some most, rest) else .error .repetitionCount
      | _, _ => .error .repetitionCount
  | some least, '}' :: rest => return (least, some least, rest)
  | _, _ => .error .repetitionCount

/-- Reads a pattern from one part to the next. Every round takes a character, which bounds their
number. -/
def readFrom : Nat → Progress → Text → Except Fault Progress
  | 0, p, _ => .ok p
  | rounds + 1, p, t =>
    match skip p.flags.layout t with
    | [] => .ok p
    | '(' :: rest => do
      let (opening, rest) ← readOpening p.flags rest
      readFrom rounds (← p.opened opening) rest
    | ')' :: rest => do readFrom rounds (← p.closed) rest
    | '|' :: rest => readFrom rounds { p with branches := p.branches.next } rest
    | '[' :: rest => do
      let (whole, rest) ← readClass p.flags ('[' :: rest)
      readFrom rounds (p.push ⟨.ofClass whole.members, whole.depth⟩) rest
    | '?' :: rest =>
      let (isLazy, rest) := readLazyMark rest
      do readFrom rounds (← p.repeatLast 0 (some 1) !isLazy) rest
    | '*' :: rest =>
      let (isLazy, rest) := readLazyMark rest
      do readFrom rounds (← p.repeatLast 0 none !isLazy) rest
    | '+' :: rest =>
      let (isLazy, rest) := readLazyMark rest
      do readFrom rounds (← p.repeatLast 1 none !isLazy) rest
    | '{' :: rest => do
      -- Nothing to repeat is the first fault, before any in the counts.
      if !p.canRepeat then .error .nothingToRepeat
      else
        let (least, most, rest) ← readCounts p.flags.layout rest
        let (isLazy, rest) := readLazyMark (skip p.flags.layout rest)
        readFrom rounds (← p.repeatLast least most !isLazy) rest
    | '\\' :: rest => do
      let (primitive, rest) ← readEscape p.flags rest
      readFrom rounds (p.push ⟨p.primitive primitive, 0⟩) rest
    | '.' :: rest => do readFrom rounds (p.push ⟨← Progress.dot p.flags, 0⟩) rest
    | '^' :: rest => readFrom rounds (p.push ⟨.look (Progress.caret p.flags), 0⟩) rest
    | '$' :: rest => readFrom rounds (p.push ⟨.look (Progress.dollar p.flags), 0⟩) rest
    | c :: rest => readFrom rounds (p.push ⟨p.literal c, 0⟩) rest

@[simp] theorem readFrom_nil (rounds : Nat) (p : Progress) : readFrom rounds p [] = .ok p := by
  cases rounds with
  | zero => rfl
  | succ rounds => simp [readFrom, skip, skipLayout]

/-- The number of levels a pattern may be nested. -/
def maxDepth : Nat := 250

/-- The expression a text stands for, with the names of its groups and their numbers. -/
def readExpr (t : Text) : Except Fault (Expr × List (String × Nat)) := do
  let p ← readFrom (t.length + 1) {} t
  if !p.enclosing.isEmpty then .error .groupUnclosed
  else
    let whole := p.branches.close
    if maxDepth < whole.depth then .error .tooDeep else return (whole.expr, p.names)

end DesignTokens.Pattern
