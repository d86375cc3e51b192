import DesignTokens.Pattern.Automaton
import DesignTokens.Pattern.Layout
import DesignTokens.Pattern.Reader
import DesignTokens.Text.Search

/-! # Matching patterns

A text is first swept from its end to its start: at every place the states are noted from which a
match can still be completed, that is, from which the state that accepts can be reached with the
text after the place. A match starts at the first place where the state to start from is among
them. It is then followed from there, at every fork on the preferred way that can be completed. No
state is passed twice at one place, so a round that takes no character ends its loop.

## Main definitions

* `Pattern.StateSet` - a set of states
* `Pattern.Automaton.viable` - the states from which a match can be completed at a place
* `Pattern.Automaton.sweep` - a text with these states noted at its places
* `Pattern.Automaton.follow` - a match from a place where it can be completed
* `Pattern` - a pattern that can be matched, and `Pattern.read` its reading
* `Pattern.find`, `Pattern.isMatch` - the first match in a text
-/

namespace DesignTokens.Pattern

/-- A set of states: their numbers, and the same as the bits of a number. -/
structure StateSet where
  members : List Nat
  bits : Nat
  deriving Repr, DecidableEq

namespace StateSet

/-- No state. -/
def empty : StateSet := ⟨[], 0⟩

/-- Whether a state is in a set. -/
def contains (s : StateSet) (q : Nat) : Bool :=
  s.bits.testBit q

/-- A set with a further state. -/
def insert (q : Nat) (s : StateSet) : StateSet :=
  ⟨q :: s.members, s.bits ||| (1 <<< q)⟩

end StateSet

/-- A place that a match kept: the number of a group, whether it starts there or ends, and the
number of characters taken before. -/
structure Mark where
  index : Nat
  starts : Bool
  taken : Nat
  deriving Repr, DecidableEq

/-- The places that a match kept, the latest first. -/
abbrev Marks := List Mark

/-- The text of a group of a match, if the match passed the group. -/
def Marks.text? (marks : Marks) (found : Text) (index : Nat) : Option Text :=
  match marks.find? fun m => m.index = index && m.starts,
    marks.find? fun m => m.index = index && !m.starts with
  | some first, some last => some ((found.drop first.taken).take (last.taken - first.taken))
  | _, _ => none

/-- A character with the states noted at the place before it. -/
abbrev Noted := Char × StateSet

namespace Automaton

/-- Whether a state takes a character. -/
def takes (a : Automaton) (c : Char) (q : Nat) : Bool :=
  match a.states[q]? with
  | some (.take accepted _) => accepted.contains c
  | _ => false

/-- Whether a state goes on at a place between two neighbours without taking a character. -/
def passes (a : Automaton) (before after : Option Char) (q : Nat) : Bool :=
  match a.states[q]? with
  | some (.look condition _) => condition.holds before after
  | some (.mark _ _ _) => true
  | some (.fork _ _) => true
  | _ => false

/-- The states that lead to one of a set. -/
def leadingTo (a : Automaton) (q : Nat) : List Nat :=
  a.sources.getD q []

/-- Adds to a set all states that lead there without taking a character. Every state is looked into
once, and at most two lead on from each, which bounds the number of rounds. -/
def spread (a : Automaton) (before after : Option Char) :
    Nat → List Nat → StateSet → StateSet
  | 0, _, found => found
  | _ + 1, [], found => found
  | rounds + 1, q :: todo, found =>
    if found.contains q then spread a before after rounds todo found
    else
      let more := (a.leadingTo q).filter (a.passes before after)
      spread a before after rounds (more ++ todo) (found.insert q)

/-- The states from which a match can be completed at a place between two neighbours, where `ahead`
are those at the next place. -/
def viable (a : Automaton) (before after : Option Char) (ahead : StateSet) : StateSet :=
  let taking :=
    match after with
    | none => []
    | some c => ahead.members.flatMap fun q => (a.leadingTo q).filter (a.takes c)
  let first := 0 :: taking
  spread a before after (first.length + 2 * a.states.size) first .empty

/-- The states from which a match can be completed at the end of a text. -/
def viableAtEnd (a : Automaton) (before : Option Char) : StateSet :=
  a.viable before none .empty

/-- Notes the states of all places of a text that is given last character first; `ahead` are those
at its end, and `noted` is what follows it. -/
def sweepFrom (a : Automaton) (ahead : StateSet) (noted : List Noted) : Text → List Noted
  | [] => noted
  | c :: earlier =>
    let here := a.viable earlier.head? (some c) ahead
    sweepFrom a here ((c, here) :: noted) earlier

/-- A text with the states noted at its places. -/
def sweep (a : Automaton) (t : Text) : List Noted :=
  sweepFrom a (a.viableAtEnd t.getLast?) [] t.reverse

/-- The states noted at a place. -/
def statesAt (a : Automaton) (before : Option Char) : List Noted → StateSet
  | [] => a.viableAtEnd before
  | (_, here) :: _ => here

/-- What becomes of a match at a place: it ends, or it takes a character and goes on. -/
inductive Way where
  | ends (marks : Marks)
  | goes (next : Nat) (marks : Marks)
  deriving Repr, DecidableEq

/-- The preferred way on from a place between two neighbours, with `here` and `ahead` the states
noted there and at the next place, and `taken` the number of characters taken. The states to try
come with the marks made on the way to them. -/
def firstWay (a : Automaton) (before after : Option Char) (here ahead : StateSet) (taken : Nat) :
    Nat → List (Nat × Marks) → StateSet → Option Way
  | 0, _, _ => none
  | _ + 1, [], _ => none
  | rounds + 1, (q, marks) :: todo, passed =>
    let go (todo : List (Nat × Marks)) (passed : StateSet) : Option Way :=
      firstWay a before after here ahead taken rounds todo passed
    -- A state that was passed has opened no way, and would not open one now.
    if passed.contains q || !here.contains q then go todo passed
    else
      let passed := passed.insert q
      match a.states[q]? with
      | none => go todo passed
      | some .accept => some (.ends marks)
      | some (.take accepted next) =>
        if after.any accepted.contains && ahead.contains next then some (.goes next marks)
        else go todo passed
      | some (.look condition next) =>
        if condition.holds before after then go ((next, marks) :: todo) passed
        else go todo passed
      | some (.mark index starts next) =>
        go ((next, ⟨index, starts, taken⟩ :: marks) :: todo) passed
      | some (.fork preferred other) => go ((preferred, marks) :: (other, marks) :: todo) passed

/-- Follows a match from a state at a place, up to where it ends. -/
def follow (a : Automaton) (before : Option Char) (q taken : Nat) (marks : Marks) :
    List Noted → Nat × Marks
  | [] =>
    let here := a.viableAtEnd before
    match a.firstWay before none here .empty taken (2 * a.states.size + 2) [(q, marks)] .empty with
    | some (.ends marks) => (taken, marks)
    | _ => (taken, marks)
  | (c, here) :: rest =>
    let ahead := a.statesAt (some c) rest
    match a.firstWay before (some c) here ahead taken (2 * a.states.size + 2) [(q, marks)]
      .empty with
    | some (.ends marks) => (taken, marks)
    | some (.goes next marks) => follow a (some c) next (taken + 1) marks rest
    | none => (taken, marks)

/-- The match at a place, if there is one. -/
def probe (a : Automaton) : Text.Probe Noted Marks := fun before rest =>
  let before := before.map (·.1)
  if (a.statesAt before rest).contains a.start then some (a.follow before a.start 0 [] rest)
  else none

end Automaton

end DesignTokens.Pattern

namespace DesignTokens

/-- A pattern that can be matched: its written form, its automaton and the names of its groups. -/
structure Pattern where
  source : String
  automaton : Pattern.Automaton
  names : List (String × Nat)
  deriving Repr, DecidableEq

namespace Pattern

/-- Reads the written form of a pattern. -/
def read (source : String) : Except Fault Pattern := do
  let (expr, names) ← readExpr source.toList
  if expr.fits then return ⟨source, .ofExpr expr, names⟩ else .error .tooLarge

/-- The first match in a text. -/
def find (pattern : Pattern) (t : Text) : Option (Text.Hit Char Marks) :=
  (Text.find pattern.automaton.probe (pattern.automaton.sweep t)).map (·.map (·.1))

/-- A text cut into the matches of a pattern and what lies between them. -/
def hits (pattern : Pattern) (t : Text) : List (Text.Part Char Marks) :=
  (Text.hits pattern.automaton.probe (pattern.automaton.sweep t)).map (·.map (·.1))

/-- Whether a pattern matches somewhere in a text. -/
def isMatch (pattern : Pattern) (t : Text) : Bool :=
  (pattern.find t).isSome

end Pattern

end DesignTokens
