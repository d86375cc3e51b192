import DesignTokens.Pattern.ByteRange
import DesignTokens.Pattern.Expr
import Std.Data.HashMap

/-! # The size of patterns

A pattern is refused if it is too large. Its size is the room that an automaton on bytes takes that
matches it, once read forward and once backward; both have to stay within a limit. The automaton is
not built here, only laid out: the states are counted, and the room they take. A choice between
literals alone is of any size if there are very many of them.

A class that is not ASCII takes many states, most of which have the same successors as another. They
are shared through a table with a fixed number of slots, in which a new entry takes the place of the
one before it, so that some are laid out twice.

## Main definitions

* `Pattern.Layout` - the states laid out and the room they take
* `Pattern.Expr.lay` - lays out an expression
* `Pattern.Expr.fits` - whether an expression stays within the limit both ways
-/

namespace DesignTokens.Pattern

/-- What is laid out: the number of states, which is also the number of the next one, and the room
they take. -/
structure Layout where
  states : Nat
  room : Nat
  deriving Repr, DecidableEq

/-- The way in which a text is read. -/
inductive Direction where
  | forward
  | backward
  deriving Repr, DecidableEq

namespace Layout

/-- The room that may be taken. -/
def limit : Nat := 10 * 1024 * 1024

/-- The room of a state, without its successors. -/
def stateRoom : Nat := 32

/-- The room of a successor that is reached without reading. -/
def edgeRoom : Nat := 4

/-- The room of a successor that is reached by a byte of a range. -/
def rangeRoom : Nat := 8

/-- Nothing. -/
def start : Layout := ⟨0, 0⟩

/-- Lays out some states, with room for their successors in addition. -/
def grow (states successors : Nat) (l : Layout) : Layout :=
  ⟨l.states + states, l.room + stateRoom * states + successors⟩

/-- What is laid out as long as it stays within the limit. -/
def checked (l : Layout) : Option Layout :=
  if limit < l.room then none else some l

end Layout

/-- A step of laying out, which fails at the limit. -/
abbrev LayoutStep := Layout → Option Layout

namespace LayoutStep

/-- Lays out some states, with room for their successors in addition. -/
def states (n successors : Nat) : LayoutStep := fun l =>
  (l.grow n successors).checked

/-- A state that goes on in two ways without reading. -/
def fork : LayoutStep :=
  states 1 (2 * Layout.edgeRoom)

/-- A state that goes on in one way. -/
def plain : LayoutStep :=
  states 1 0

/-- One step after the other. -/
def andThen (f g : LayoutStep) : LayoutStep := fun l =>
  (f l).bind g

/-- A step a number of times. -/
def times (f : LayoutStep) : Nat → LayoutStep
  | 0, l => some l
  | n + 1, l =>
    match f l with
    | none => none
    | some l => times f n l

end LayoutStep

/-! ### Classes -/

/-- Mixes a number into a running hash. -/
def mix (hash value : UInt64) : UInt64 :=
  (hash ^^^ value) * 1099511628211

/-- The hash of a list of numbers. -/
def hashOf (values : List UInt64) : UInt64 :=
  values.foldl mix 14695981039346656037

/-- Successors by the bytes that lead to them. -/
abbrev Branching := List (ByteRange × Nat)

/-- States that are shared: a table of slots, each with the state last laid out for it. -/
structure Shared (α : Type) where
  layout : Layout
  slots : Std.HashMap UInt64 (α × Nat)

namespace Shared

variable {α : Type} [DecidableEq α]

/-- The number of a state known under a key; if there is none it is laid out. -/
def state (slot : UInt64) (key : α) (successors : Nat) (s : Shared α) : Nat × Shared α :=
  let fresh : Nat × Shared α :=
    (s.layout.states, ⟨s.layout.grow 1 successors, s.slots.insert slot (key, s.layout.states)⟩)
  match s.slots[slot]? with
  | some (known, number) => if known = key then (number, s) else fresh
  | none => fresh

end Shared

/-- The slot of a state read forward, by its successors. -/
def branchingSlot (b : Branching) : UInt64 :=
  hashOf (b.flatMap fun (range, next) =>
    [range.lo.toUInt64, range.hi.toUInt64, next.toUInt64]) % 10000

/-- The slot of a state read backward, by what it leads to and the bytes it reads. -/
def rangeSlot (key : Nat × ByteRange) : UInt64 :=
  hashOf [key.1.toUInt64, key.2.lo.toUInt64, key.2.hi.toUInt64] % 1000

/-- Lays out the states that read sequences forward up to the state `target`, and the number of the
first. The sequences are no longer than `depth`, and those with a common start follow one
another. -/
def layForward (target : Nat) :
    Nat → List (List ByteRange) → Shared Branching → Nat × Shared Branching
  | 0, _, s => (target, s)
  | depth + 1, sequences, s =>
    if sequences.all List.isEmpty then (target, s)
    else
      let groups := sequences.splitBy fun a b => a.head? == b.head?
      let (branching, s) := groups.foldl
        (fun (found, s) group =>
          match group.head?.bind List.head? with
          | none => (found, s)
          | some range =>
            let (next, s) := layForward target depth (group.map List.tail) s
            ((range, next) :: found, s))
        (([] : Branching), s)
      let branching := branching.reverse
      s.state (branchingSlot branching) branching (Layout.rangeRoom * branching.length)

/-- Lays out the states that read one sequence backward. -/
def layBackward (target : Nat) (s : Shared (Nat × ByteRange)) (sequence : List ByteRange) :
    Shared (Nat × ByteRange) :=
  (sequence.foldl
    (fun (next, s) range => s.state (rangeSlot (next, range)) (next, range) 0) (target, s)).2

/-- Lays out a class by its sequences of byte ranges. -/
def laySequences (direction : Direction) (sequences : List (List ByteRange)) : LayoutStep :=
  fun l =>
  match direction with
  | .forward =>
    let (_, s) := layForward l.states 5 sequences ⟨l.grow 1 0, ∅⟩
    s.layout.checked
  | .backward =>
    let entered := l.grow 2 (Layout.edgeRoom * sequences.length)
    let s := sequences.foldl (layBackward (l.states + 1)) ⟨entered, ∅⟩
    s.layout.checked

/-- Lays out a class: two states if it is ASCII. -/
def layClass (direction : Direction) (accepted : CharClass) : LayoutStep :=
  if accepted.ranges.all (·.2 < 128) then
    .states 2 (Layout.rangeRoom * accepted.ranges.length)
  else
    laySequences direction (ByteRange.sequences accepted)

/-! ### Choices between literals -/

/-- The words of a list up to each empty one, and after the last. -/
def runs : List Bytes → List (List Bytes)
  | [] => [[]]
  | [] :: rest => [] :: runs rest
  | word :: rest =>
    match runs rest with
    | [] => [[word]]
    | first :: more => (word :: first) :: more

/-- A list of words without the empty ones in front but one. -/
def dropEmpty : List Bytes → List Bytes
  | [] :: [] :: rest => dropEmpty ([] :: rest)
  | words => words

/-- Lays out the states that read one of several words, the first of the list preferred. The words
are no longer than `depth`. Words that begin alike share states as long as no word ends between
them. -/
def layWords : Nat → List Bytes → Layout → Layout
  | 0, _, l => l
  | depth + 1, words, l =>
    let chunks := (runs (dropEmpty words)).map fun run => (run.filterMap List.head?).eraseDups
    let rests := (runs (dropEmpty words)).flatMap fun run =>
      (run.filterMap List.head?).eraseDups.map fun byte =>
        (run.filter (·.head? = some byte)).map List.tail
    let l := rests.foldl
      (fun l rest => if rest.all List.isEmpty then l else layWords depth rest l) l
    let l := chunks.foldl
      (fun l chunk =>
        match chunk.length with
        | 0 => l
        | 1 => l.grow 1 0
        | n => l.grow 1 (Layout.rangeRoom * n)) l
    let ways := (chunks.filter (!·.isEmpty)).length + (chunks.length - 1)
    l.grow 1 (Layout.edgeRoom * ways)

/-- Lays out a choice between literals. -/
def layLiterals (direction : Direction) (literals : List Text) : LayoutStep := fun l =>
  let words := literals.map fun t =>
    match direction with
    | .forward => Text.encode t
    | .backward => (Text.encode t).reverse
  let depth := words.foldl (fun n word => max n word.length) 0
  (layWords (depth + 1) words (l.grow 1 0)).checked

/-! ### Expressions -/

namespace Expr

/-- The text of a literal. -/
def literal? : Expr → Option Text
  | literal text => some text
  | _ => none

/-- A choice between steps: the state that chooses and the one where all meet are laid out after
the second. -/
def layBranches : List LayoutStep → LayoutStep
  | [] => .plain
  | [f] => f
  | f :: g :: more =>
    let ways := Layout.edgeRoom * (more.length + 2)
    more.foldl .andThen ((f.andThen g).andThen (.states 2 ways))

/-- A repetition of a step. `fills` says that the step reads at least one byte. -/
def layRepetition (least : Nat) (most : Option Nat) (fills : Bool) (f : LayoutStep) : LayoutStep :=
  match least, most with
  | 0, some 1 => (LayoutStep.fork.andThen f).andThen .plain
  | 0, none =>
    if fills then LayoutStep.fork.andThen f
    else (f.andThen .fork).andThen (.andThen .fork .plain)
  | _, none => (f.times least).andThen .fork
  | _, some most =>
    if least = most then f.times least
    else
      let first : LayoutStep := if least = 0 then .plain else f.times least
      (first.andThen .plain).andThen ((LayoutStep.fork.andThen f).times (most - least))

/-- The step that lays out an expression, and those of its branches. -/
def laySteps (direction : Direction) : Expr → LayoutStep × List LayoutStep
  | empty => alone .plain
  | literal text => alone (.states (Text.byteSize text) 0)
  | one accepted => alone (layClass direction accepted)
  | look _ => alone .plain
  | group _ body =>
    let (f, _) := laySteps direction body
    match direction with
    | .forward => alone ((LayoutStep.plain.andThen f).andThen .plain)
    | .backward => alone f
  | seq a b =>
    let (f, _) := laySteps direction a
    let (g, _) := laySteps direction b
    match direction with
    | .forward => alone (f.andThen g)
    | .backward => alone (g.andThen f)
  | alt a b =>
    let (f, _) := laySteps direction a
    let (_, more) := laySteps direction b
    match (alt a b).branches.mapM literal? with
    | some literals => (layLiterals direction literals, f :: more)
    | none => (layBranches (f :: more), f :: more)
  | rep least most _ body =>
    let (f, _) := laySteps direction body
    alone (layRepetition least most (body.minWidth?.any (0 < ·)) f)
where
  /-- A step that is its own only branch. -/
  alone (f : LayoutStep) : LayoutStep × List LayoutStep := (f, [f])

/-- Lays out an expression that may match anywhere, with the states where a match starts and
ends. -/
def lay (direction : Direction) (e : Expr) : Option Layout :=
  let (f, _) := laySteps direction e
  let (bound, around) : Bool × Nat :=
    match direction with
    | .forward => (e.isAtStart, 1)
    | .backward => (e.isAtEnd, 0)
  let search : LayoutStep :=
    if bound then .plain else .states 3 (2 * Layout.edgeRoom + Layout.rangeRoom)
  (((search.andThen (.states around 0)).andThen f).andThen (.states (around + 1) 0)) .start

/-- Whether an expression is a choice between so many literals that they are looked for without an
automaton. -/
def isDictionary (e : Expr) : Bool :=
  (e.branches.mapM literal?).any (3000 ≤ ·.length)

/-- Whether an expression stays within the limit both ways, or takes no automaton. -/
def fits (e : Expr) : Bool :=
  e.isDictionary || ((e.lay .forward).isSome && (e.lay .backward).isSome)

end Expr

end DesignTokens.Pattern
