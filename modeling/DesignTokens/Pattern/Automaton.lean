import DesignTokens.Pattern.Expr

/-! # Automata

To be matched, an expression is brought into the form of an automaton: numbered states, each of
which takes a character, asks for a condition on the place, keeps the place as an end of a group,
or forks into two ways of which it prefers the first.

## Main definitions

* `Pattern.State` - a state
* `Pattern.Automaton` - an automaton, and `Pattern.Automaton.ofExpr` that of an expression
-/

namespace DesignTokens.Pattern

/-- A state of an automaton, with the numbers of the states that follow. -/
inductive State where
  /-- A match ends. -/
  | accept
  | take (accepted : CharClass) (next : Nat)
  | look (condition : Look) (next : Nat)
  /-- The place is where a group starts, or else ends. -/
  | mark (index : Nat) (starts : Bool) (next : Nat)
  | fork (preferred other : Nat)
  deriving Repr, DecidableEq

/-- An automaton: its states, where it starts, and for each state those that lead to it. -/
structure Automaton where
  states : Array State
  start : Nat
  sources : Array (List Nat)
  deriving Repr, DecidableEq

namespace State

/-- The numbers of the states that follow. -/
def targets : State → List Nat
  | accept => []
  | take _ next => [next]
  | look _ next => [next]
  | mark _ _ next => [next]
  | fork preferred other => [preferred, other]

end State

/-- The states built so far, and the number of the one that starts what was built last. -/
structure Draft where
  states : Array State
  entry : Nat
  deriving Repr, DecidableEq

namespace Draft

/-- A further state, in front of what was built last if it leads there. -/
def push (d : Draft) (state : State) : Draft :=
  let number := d.states.size
  ⟨d.states.push state, number⟩

/-- A fork between a way and the rest, the way preferred if `greedy`. -/
def forkOf (greedy : Bool) (way rest : Nat) : State :=
  if greedy then .fork way rest else .fork rest way

/-- Puts a loop in front: rounds of what `build` puts in front, at least one, and the number of the
fork that ends a round. The fork comes first, as the round leads to it. -/
def loop (build : Draft → Draft) (greedy : Bool) (d : Draft) : Draft × Nat :=
  let exit := d.entry
  let fork := d.states.size
  let d := build (d.push .accept)
  (⟨d.states.setIfInBounds fork (forkOf greedy d.entry exit), d.entry⟩, fork)

/-- Puts a choice in front, to take what `build` puts in front or to go on at `exit`. -/
def option (build : Draft → Draft) (greedy : Bool) (exit : Nat) (d : Draft) : Draft :=
  let d := build d
  d.push (forkOf greedy d.entry exit)

/-- Puts rounds of what `build` puts in front. If a round `fills`, that is, takes a character, a
loop can be entered at the fork that ends its rounds. -/
def rounds (build : Draft → Draft) (least : Nat) (most : Option Nat) (greedy fills : Bool)
    (d : Draft) : Draft :=
  let exit := d.entry
  match most with
  | some most => least.repeat build ((most - least).repeat (option build greedy exit) d)
  | none =>
    let (d, fork) := loop build greedy d
    match least with
    | 0 => if fills then ⟨d.states, fork⟩ else d.push (forkOf greedy d.entry exit)
    | least + 1 => least.repeat build d

/-- Puts an expression in front of what was built last. -/
def build : Expr → Draft → Draft
  | .empty, d => d
  | .literal text, d => text.foldr (fun c d => d.push (.take (.char c) d.entry)) d
  | .one accepted, d => d.push (.take accepted d.entry)
  | .look condition, d => d.push (.look condition d.entry)
  | .group index body, d =>
    let d := build body (d.push (.mark index false d.entry))
    d.push (.mark index true d.entry)
  | .seq a b, d => build a (build b d)
  | .alt a b, d =>
    let exit := d.entry
    let d := build b d
    let second := d.entry
    let d := build a ⟨d.states, exit⟩
    d.push (.fork d.entry second)
  | .rep least most greedy body, d =>
    rounds (build body) least most greedy (body.minWidth?.any (0 < ·)) d

end Draft

namespace Automaton

/-- For each state those that lead to it. -/
def sourcesOf (states : Array State) : Array (List Nat) :=
  (states.foldl
    (fun (sources, n) state =>
      (state.targets.foldl (fun sources target => sources.modify target (n :: ·)) sources, n + 1))
    (Array.replicate states.size [], 0)).1

/-- The automaton of an expression. Its state number zero is the one where a match ends. -/
def ofExpr (e : Expr) : Automaton :=
  let d := Draft.build e ⟨#[.accept], 0⟩
  ⟨d.states, d.entry, sourcesOf d.states⟩

end Automaton

end DesignTokens.Pattern
