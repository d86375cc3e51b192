import DesignTokens.Pattern.CharClass

/-! # Patterns as expressions

A pattern is an expression over classes of characters: sequences, choices in order of preference,
repetitions that prefer more or fewer rounds, groups whose text is kept, and conditions on the
place between two characters.

Expressions are built in a simplest form: characters in a row are one literal, a choice between
characters or between classes is one class, what all branches of a choice begin with stands in
front of it, and a repetition of nothing but a place is taken once at most.

## Main definitions

* `Pattern.Look` - a condition on a place in a text, and `Pattern.Look.holds` its meaning
* `Pattern.Expr` - an expression
* `Pattern.Expr.concat`, `Pattern.Expr.choice`, `Pattern.Expr.repeated` - expressions from smaller
  ones, in their simplest form
-/

namespace DesignTokens.Pattern

open Character

/-- A condition on the place between two characters. -/
inductive Look where
  | textStart
  | textEnd
  | lineStart
  | lineEnd
  /-- The start of a line where a carriage return alone ends a line too. -/
  | lineStartAnyEnd
  /-- The end of a line where a carriage return alone ends a line too. -/
  | lineEndAnyEnd
  /-- `before` and `after` say what is wanted of the neighbours: a character of words (`some true`),
  none (`some false`) or either (`none`). -/
  | wordSides (ascii : Bool) (before after : Option Bool)
  | wordBoundary (ascii : Bool)
  | noWordBoundary (ascii : Bool)
  deriving Repr, DecidableEq

namespace Look

/-- The ASCII characters of words. -/
def isAsciiWord (c : Char) : Bool :=
  c.isAlphanum || c = '_'

/-- Whether a neighbour is a character of words. -/
def isWordSide (ascii : Bool) (c : Option Char) : Bool :=
  c.any (if ascii then isAsciiWord else isWord)

/-- Whether a condition holds between the neighbours `before` and `after`, where `none` is an end
of the text. -/
def holds (look : Look) (before after : Option Char) : Bool :=
  match look with
  | textStart => before.isNone
  | textEnd => after.isNone
  | lineStart => before.all (· = '\n')
  | lineEnd => after.all (· = '\n')
  | lineStartAnyEnd => before.all (· = '\n') || (before = some '\r' && after != some '\n')
  | lineEndAnyEnd => after.all (· = '\r') || (after = some '\n' && before != some '\r')
  | wordSides ascii b a =>
    b.all (isWordSide ascii before == ·) && a.all (isWordSide ascii after == ·)
  | wordBoundary ascii => isWordSide ascii before != isWordSide ascii after
  | noWordBoundary ascii => isWordSide ascii before == isWordSide ascii after

end Look

/-- A pattern as an expression. -/
inductive Expr where
  | empty
  | literal (text : Text)
  | one (accepted : CharClass)
  | look (condition : Look)
  /-- A group whose text is kept under its number. -/
  | group (index : Nat) (body : Expr)
  | seq (first second : Expr)
  /-- A choice that prefers its first branch. -/
  | alt (first second : Expr)
  /-- At least `least` and at most `most` rounds, as many as possible if `greedy`, else as few. -/
  | rep (least : Nat) (most : Option Nat) (greedy : Bool) (body : Expr)
  deriving Repr, DecidableEq

namespace Expr

/-! ### Widths -/

/-- Whether an expression can accept the empty text only. -/
def isWidthless : Expr → Bool
  | empty => true
  | literal text => text.isEmpty
  | one _ => false
  | look _ => true
  | group _ body => body.isWidthless
  | seq a b => a.isWidthless && b.isWidthless
  | alt a b => a.isWidthless && b.isWidthless
  | rep _ most _ body => most = some 0 || body.isWidthless

/-- The least number of characters that an expression accepts; nothing where a class without
members stands in the way. -/
def minWidth? : Expr → Option Nat
  | empty => some 0
  | literal text => some text.length
  | one accepted => if accepted.ranges.isEmpty then none else some 1
  | look _ => some 0
  | group _ body => body.minWidth?
  | seq a b =>
    match a.minWidth?, b.minWidth? with
    | some m, some n => some (m + n)
    | _, _ => none
  | alt a b =>
    match a.minWidth?, b.minWidth? with
    | some m, some n => some (min m n)
    | _, _ => none
  | rep least _ _ body => body.minWidth?.map (least * ·)

/-- Whether an expression accepts a text at the start of the whole text only. -/
def isAtStart : Expr → Bool
  | look condition => condition = .textStart
  | group _ body => body.isAtStart
  | seq a b => a.isAtStart || (a.isWidthless && b.isAtStart)
  | alt a b => a.isAtStart && b.isAtStart
  | rep least _ _ body => least != 0 && body.isAtStart
  | _ => false

/-- Whether an expression accepts a text at the end of the whole text only. -/
def isAtEnd : Expr → Bool
  | look condition => condition = .textEnd
  | group _ body => body.isAtEnd
  | seq a b => b.isAtEnd || (b.isWidthless && a.isAtEnd)
  | alt a b => a.isAtEnd && b.isAtEnd
  | rep least _ _ body => least != 0 && body.isAtEnd
  | _ => false

/-! ### Building -/

/-- The expression of a class: a literal if it has one member. -/
def ofClass (accepted : CharClass) : Expr :=
  match accepted.ranges with
  | [(lo, hi)] => if lo = hi then literal [Char.ofNat lo] else one accepted
  | _ => one accepted

/-- The parts of a sequence. -/
def factors : Expr → List Expr
  | empty => []
  | seq a b => a.factors ++ b.factors
  | e => [e]

/-- The branches of a choice. -/
def branches : Expr → List Expr
  | alt a b => a.branches ++ b.branches
  | e => [e]

/-- Joins literals that follow one another. -/
def joinLiterals : List Expr → List Expr
  | [] => []
  | e :: rest =>
    match e, joinLiterals rest with
    | literal s, literal t :: more => literal (s ++ t) :: more
    | e, more => e :: more

/-- The sequence of parts that are not sequences themselves. -/
def ofFactors : List Expr → Expr
  | [] => empty
  | [e] => e
  | e :: rest => seq e (ofFactors rest)

/-- The choice between branches that are not choices themselves. -/
def ofBranches : List Expr → Expr
  | [] => empty
  | [e] => e
  | e :: rest => alt e (ofBranches rest)

/-- The expressions of a list one after the other. -/
def concat (parts : List Expr) : Expr :=
  ofFactors (joinLiterals (parts.flatMap factors))

/-- The range of an expression that is a literal of one character. -/
def singleChar? : Expr → Option (Nat × Nat)
  | literal [c] => some (c.toNat, c.toNat)
  | _ => none

/-- The members of an expression that is a class. -/
def class? : Expr → Option CharClass
  | one accepted => some accepted
  | _ => none

/-- The choice between expressions: a class if all are single characters or all are classes. -/
def choose (parts : List Expr) : Expr :=
  match parts.flatMap branches with
  | [e] => e
  | parts =>
    match parts.mapM singleChar? with
    | some ranges => ofClass (RangeTable.ofRanges ranges)
    | none =>
      match parts.mapM class? with
      | some classes => ofClass (RangeTable.unionAll classes)
      | none => ofBranches parts

/-- What two lists begin with. -/
def commonStart : List Expr → List Expr → List Expr
  | a :: as, b :: bs => if a = b then a :: commonStart as bs else []
  | _, _ => []

/-- What the sequences that all expressions of a list are begin with; nothing if one is no
sequence. -/
def sharedStart (parts : List Expr) : List Expr :=
  match parts.map factors with
  | [] => []
  | first :: rest =>
    if (first :: rest).all (1 < ·.length) then rest.foldl commonStart first else []

/-- The expressions of a list as branches of a choice. -/
def choice (parts : List Expr) : Expr :=
  match parts.flatMap branches with
  | [e] => e
  | parts =>
    match sharedStart parts with
    | [] => choose parts
    | start =>
      let rests := parts.map fun part => concat (part.factors.drop start.length)
      concat (start ++ [choose rests])

/-- Rounds of an expression. What takes no character is taken once at most. -/
def repeated (body : Expr) (least : Nat) (most : Option Nat) (greedy : Bool) : Expr :=
  let least := if body.isWidthless then min least 1 else least
  let most := if body.isWidthless then some (min (most.getD 1) 1) else most
  if most = some 0 then empty
  else if least = 1 && most = some 1 then body
  else rep least most greedy body

end Expr

end DesignTokens.Pattern
