import DesignTokens.Toml.Value

/-! # Numbers, dates and truth values

The values of a document that stand without quotes.

## Main definitions

* `Toml.scalar?`, `Toml.readScalar` - the value of a word, and its reading
-/

namespace DesignTokens.Toml

open Text

/-! ### Numbers -/

/-- The value of a digit in a base up to sixteen. -/
def digitOf (c : Char) : Nat :=
  if c.isDigit then c.toNat - '0'.toNat else c.toLower.toNat - 'a'.toNat + 10

/-- The value of digits in a base. -/
def numberOf (base : Nat) (digits : Text) : Nat :=
  digits.foldl (fun n c => n * base + digitOf c) 0

/-- A text without the sign in front, and whether that is a minus. -/
def splitSign (t : Text) : Bool × Text :=
  match t with
  | '-' :: rest => (true, rest)
  | '+' :: rest => (false, rest)
  | _ => (false, t)

/-- Hexadecimal digits. -/
def isHexDigit (c : Char) : Bool :=
  c.isDigit || (('a'.toNat ≤ c.toLower.toNat) && (c.toLower.toNat ≤ 'f'.toNat))

/-- Whether underscores divide a number as they may: a digit stands on both sides of each. -/
def dividesDigits (isDigit : Char → Bool) (t : Text) : Bool :=
  match pieces '_' t with
  | [] => true
  | first :: more =>
    more.all (·.head?.any isDigit) && (first :: more).dropLast.all (·.getLast?.any isDigit)

/-- A whole number in decimal digits, with a sign. -/
def decimal? (t : Text) : Option Int :=
  let (isNegative, digits) := splitSign (t.filter (· ≠ '_'))
  if digits.isEmpty || !digits.all Char.isDigit then none
  else
    let n := Int.ofNat (numberOf 10 digits)
    some (if isNegative then -n else n)

/-- A whole number in the digits of another base. -/
def based? (base : Nat) (isDigit : Char → Bool) (t : Text) : Option Value :=
  if t.all (fun c => isDigit c || c = '_') && dividesDigits isHexDigit t then
    let digits := t.filter (· ≠ '_')
    some (.integer (if digits.isEmpty then none else some (Int.ofNat (numberOf base digits))))
  else none

/-- What follows digits and underscores, of which there is at least one digit. -/
def afterDigits? (t : Text) : Option Text :=
  let digits := t.takeWhile fun c => c.isDigit || c = '_'
  if digits.any Char.isDigit then some (t.dropWhile fun c => c.isDigit || c = '_') else none

/-- Whether a text is an exponent with its letter, or empty. -/
def isExponent (t : Text) : Bool :=
  match t with
  | [] => true
  | c :: rest => c.toLower = 'e' && afterDigits? (splitSign rest).2 = some []

/-- Whether a text without sign is a number with a fraction, an exponent or both. There is no zero
in front of another digit. -/
def isFraction (t : Text) : Bool :=
  let whole := t.takeWhile fun c => c.isDigit || c = '_'
  !(whole.head? = some '0' && 1 < (whole.filter Char.isDigit).length) &&
    match afterDigits? t with
    | none => false
    | some ('.' :: rest) => (afterDigits? rest).any isExponent
    | some rest => isExponent rest

/-! ### Dates and times -/

/-- `n` digits and what follows them. -/
def digitsOf? : Nat → Text → Option (Text × Text)
  | 0, t => some ([], t)
  | _ + 1, [] => none
  | n + 1, c :: rest =>
    if c.isDigit then (digitsOf? n rest).map fun (digits, rest) => (c :: digits, rest) else none

/-- A number of `n` digits between two bounds, and what follows it. -/
def field? (n least most : Nat) (t : Text) : Option (Nat × Text) := do
  let (digits, rest) ← digitsOf? n t
  let value := numberOf 10 digits
  if least ≤ value && value ≤ most then some (value, rest) else none

/-- The number of days of a month. -/
def daysIn (year month : Nat) : Nat :=
  if month = 2 then
    if (year % 4 = 0 && year % 100 != 0) || year % 400 = 0 then 29 else 28
  else if [4, 6, 9, 11].contains month then 30
  else 31

/-- A date, and what follows it. -/
def date? (t : Text) : Option (Text × Text) := do
  let (year, rest) ← field? 4 0 9999 t
  let rest ← after? ['-'] rest
  let (month, rest) ← field? 2 1 12 rest
  let rest ← after? ['-'] rest
  let (_, rest) ← field? 2 1 (daysIn year month) rest
  return (t.take 10, rest)

/-- The fraction of a second, with its point, to nine places and without zeros at the end, and what
follows it. -/
def secondFraction? (t : Text) : Option (Text × Text) :=
  match t with
  | '.' :: rest =>
    let digits := rest.takeWhile Char.isDigit
    let kept := dropEndWhile (· = '0') (digits.take 9)
    if digits.isEmpty then none
    else some (if kept.isEmpty then [] else '.' :: kept, rest.dropWhile Char.isDigit)
  | _ => some ([], t)

/-- The seconds of a time, none if they are left out, and what follows them. -/
def seconds? (t : Text) : Option (Text × Text) :=
  match t with
  | ':' :: digits => do
    let (_, rest) ← field? 2 0 60 digits
    let (fraction, rest) ← secondFraction? rest
    return (':' :: digits.take 2 ++ fraction, rest)
  | _ => some (":00".toList, t)

/-- A time of day with its seconds, and what follows it. -/
def time? (t : Text) : Option (Text × Text) := do
  let (_, rest) ← field? 2 0 23 t
  let rest ← after? [':'] rest
  let (_, rest) ← field? 2 0 59 rest
  let (seconds, rest) ← seconds? rest
  return (t.take 5 ++ seconds, rest)

/-- A distance from universal time, which may be left out. One of nothing has a plus. -/
def offset? (t : Text) : Option Text :=
  match t with
  | [] => some []
  | [c] => if c = 'Z' || c = 'z' then some ['Z'] else none
  | c :: distance => do
    let (hours, rest) ← field? 2 0 23 distance
    let rest ← after? [':'] rest
    let (minutes, rest) ← field? 2 0 59 rest
    if !rest.isEmpty || (c != '+' && c != '-') then none
    else some ((if hours = 0 && minutes = 0 then '+' else c) :: distance)

/-- A date, a time of day or both, in one spelling. -/
def moment? (t : Text) : Option Text :=
  match date? t with
  | some (date, []) => some date
  | some (date, c :: rest) =>
    if c = 'T' || c = 't' || c = ' ' then do
      let (time, rest) ← time? rest
      let offset ← offset? rest
      return date ++ ['T'] ++ time ++ offset
    else none
  | none =>
    match time? t with
    | some (time, []) => some time
    | _ => none

/-! ### Words -/

/-- The characters of numbers, dates and truth values: all up to one that ends or divides values. -/
def isScalarChar (c : Char) : Bool :=
  !"=,[]\x7b\x7d \t#\r\n".toList.contains c

/-- The value of a word that starts with a digit or an underscore, with or without a sign. What is
no date and no number with a fraction is a whole number as soon as an underscore follows its first
digits. -/
def decimalWord? (t : Text) : Option Value :=
  let body := (splitSign t).2
  let rest := body.dropWhile Char.isDigit
  let hasLeadingZero := body.head? = some '0' && body != ['0']
  if rest.head? = some '-' || rest.head? = some ':' then
    (moment? t).map fun text => .date (String.ofList text)
  else if rest.any fun c => c = '.' || c = 'e' || c = 'E' then
    if isFraction body && dividesDigits Char.isDigit t then some .fraction else none
  else if rest.isEmpty || rest.head? = some '_' then
    if !hasLeadingZero && dividesDigits isHexDigit t then some (.integer (decimal? t)) else none
  else none

/-- The value of a word. -/
def scalar? (t : Text) : Option Value :=
  match t with
  | '0' :: 'x' :: digits => based? 16 isHexDigit digits
  | '0' :: 'o' :: digits => based? 8 (fun c => c.isDigit && c.toNat < '8'.toNat) digits
  | '0' :: 'b' :: digits => based? 2 (fun c => c = '0' || c = '1') digits
  | _ =>
    let body := (splitSign t).2
    if t = "true".toList then some (.boolean true)
    else if t = "false".toList then some (.boolean false)
    else if body = "inf".toList || body = "nan".toList then some .fraction
    else if body.head?.any fun c => c.isDigit || c = '_' then decimalWord? t
    else none

/-- Reads a word. A time of day may follow a date after a blank. -/
def readScalar (t : Text) : Except Fault (Value × Text) :=
  let word := t.takeWhile isScalarChar
  let rest := t.dropWhile isScalarChar
  let withTime : Option (Value × Text) :=
    match rest with
    | ' ' :: more =>
      if (date? word).any (·.2.isEmpty) && more.head?.any Char.isDigit then
        (scalar? (word ++ [' '] ++ more.takeWhile isScalarChar)).map
          (·, more.dropWhile isScalarChar)
      else none
    | _ => none
  match withTime.or ((scalar? word).map (·, rest)) with
  | some found => .ok found
  | none => .error .scalar

end DesignTokens.Toml
