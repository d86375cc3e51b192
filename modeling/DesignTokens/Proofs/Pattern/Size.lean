import DesignTokens.Pattern.Layout
import Mathlib.Algebra.GroupWithZero.Nat
import Mathlib.Data.List.Forall2
import Mathlib.Data.List.SplitBy

/-! # Bounds on the size of patterns

How much room an automaton takes is known from the parts of its expression, without laying it out.
States of a class are shared where they can be, which only saves room.

## Main definitions

* `Pattern.LayoutStep.Within`, `Pattern.LayoutStep.Spends` - a step that takes at most, or at least,
  some room
* `Pattern.Shifts` - what is laid out adds the same room wherever it starts
* `Pattern.Expr.Takes` - an expression whose automata take no more than some room

## Main results

* `Pattern.within_layClass` - the room of a class
* `Pattern.Expr.fits_of_takes` - an expression that takes little room fits
-/

namespace DesignTokens

/-! ### Tables -/

namespace RangeTable

theorem length_coalesce_le (current : Nat × Nat) (ranges : List (Nat × Nat)) :
    (coalesce current ranges).length ≤ ranges.length + 1 := by
  induction ranges generalizing current with
  | nil => exact Nat.le_refl _
  | cons range ranges ih =>
    obtain ⟨lo, hi⟩ := range
    rw [coalesce]
    split
    · exact Nat.le_succ_of_le (ih _)
    · exact Nat.succ_le_succ (ih _)

theorem length_ofRanges_le (ranges : List (Nat × Nat)) :
    (ofRanges ranges).ranges.length ≤ ranges.length := by
  have hsorted : (ranges.mergeSort fun a b => decide (a.1 ≤ b.1)).length = ranges.length :=
    List.length_mergeSort ranges
  rw [ofRanges]
  split
  · exact Nat.zero_le _
  · rename_i first rest heq
    rw [heq] at hsorted
    rw [← hsorted]
    exact length_coalesce_le first rest

/-- A union has no more ranges than the tables it is made of. -/
theorem length_unionAll_le (tables : List RangeTable) :
    (unionAll tables).ranges.length ≤ (tables.map (·.ranges.length)).sum := by
  rw [← List.length_flatMap]
  exact length_ofRanges_le _

/-- The ranges of a packed table are counted on its characters. -/
theorem length_ranges_of_packed {table : RangeTable} {cs : List Char} {n : Nat}
    (htable : table = ofPacked (String.ofList cs))
    (hlength : (rangesFrom 0 (numbersFrom none cs)).length = n) : table.ranges.length = n := by
  rw [htable, ← hlength]
  simp only [ofPacked, numbers, String.toList_ofList]

end RangeTable

open RangeTable in
set_option maxRecDepth 20000 in
theorem Character.length_ranges_decimalNumberTable :
    Category.decimalNumberTable.ranges.length = 71 :=
  length_ranges_of_packed rfl (by decide)

open RangeTable in
set_option maxRecDepth 20000 in
/-- The ranges of the characters of words, before those that touch are joined. -/
theorem Character.length_ranges_wordTable_le : Character.wordTable.ranges.length ≤ 1387 := by
  refine Nat.le_trans (length_unionAll_le _) ?_
  have halphabetic : Property.alphabetic.table.ranges.length = 757 :=
    length_ranges_of_packed rfl (by decide)
  have hnonspacing : Category.nonspacingMarkTable.ranges.length = 357 :=
    length_ranges_of_packed rfl (by decide)
  have hspacing : Category.spacingMarkTable.ranges.length = 190 :=
    length_ranges_of_packed rfl (by decide)
  have henclosing : Category.enclosingMarkTable.ranges.length = 5 :=
    length_ranges_of_packed rfl (by decide)
  have hconnector : Category.connectorPunctuationTable.ranges.length = 6 :=
    length_ranges_of_packed rfl (by decide)
  have hjoin : Property.joinControl.table.ranges.length = 1 :=
    length_ranges_of_packed rfl (by decide)
  simp only [List.map_cons, List.map_nil, List.sum_cons, List.sum_nil, halphabetic, hnonspacing,
    hspacing, henclosing, length_ranges_decimalNumberTable, hconnector, hjoin]
  decide

namespace Pattern

/-- A step takes no more than some room, wherever there is as much left. -/
def LayoutStep.Within (f : LayoutStep) (n : Nat) : Prop :=
  ∀ l : Layout, l.room + n ≤ Layout.limit → ∃ l', f l = some l' ∧ l'.room ≤ l.room + n

namespace LayoutStep.Within

variable {f g : LayoutStep} {m n : Nat}

theorem mono (h : f.Within m) (hle : m ≤ n) : f.Within n := by
  intro l hl
  obtain ⟨l', hf, hroom⟩ := h l (by omega)
  exact ⟨l', hf, by omega⟩

/-- A step that lays out states and stops at the limit. -/
theorem of_checked {lay : Layout → Layout} (h : ∀ l, (lay l).room ≤ l.room + n) :
    Within (fun l => (lay l).checked) n := by
  intro l hl
  have := h l
  exact ⟨lay l, if_neg (by omega), this⟩

theorem states (k successors : Nat) :
    (LayoutStep.states k successors).Within (32 * k + successors) :=
  of_checked fun l => by simp [Layout.grow, Layout.stateRoom]; omega

theorem fork : LayoutStep.fork.Within 40 :=
  states 1 (2 * Layout.edgeRoom)

theorem plain : LayoutStep.plain.Within 32 :=
  states 1 0

theorem andThen (hf : f.Within m) (hg : g.Within n) : (f.andThen g).Within (m + n) := by
  intro l hl
  obtain ⟨l', hf, hroom⟩ := hf l (by omega)
  obtain ⟨l'', hg, hroom'⟩ := hg l' (by omega)
  exact ⟨l'', by rw [LayoutStep.andThen, hf]; exact hg, by omega⟩

theorem times (hf : f.Within m) (k : Nat) : (f.times k).Within (k * m) := by
  induction k with
  | zero => exact fun l _ => ⟨l, rfl, by omega⟩
  | succ k ih =>
    intro l hl
    rw [Nat.succ_mul] at hl ⊢
    obtain ⟨l', hf, hroom⟩ := hf l (by omega)
    obtain ⟨l'', hk, hroom'⟩ := ih l' (by omega)
    exact ⟨l'', by rw [LayoutStep.times, hf]; exact hk, by omega⟩

end LayoutStep.Within

/-- A step takes at least some room, and stays within the limit. -/
def LayoutStep.Spends (f : LayoutStep) (n : Nat) : Prop :=
  ∀ l l' : Layout, f l = some l' → l.room + n ≤ l'.room ∧ l'.room ≤ Layout.limit

namespace LayoutStep.Spends

variable {f g : LayoutStep} {m n : Nat}

theorem states (k successors : Nat) :
    (LayoutStep.states k successors).Spends (32 * k + successors) := by
  intro l l' h
  rw [LayoutStep.states, Layout.checked] at h
  split at h
  · cases h
  · cases h
    simp only [Layout.grow, Layout.stateRoom] at *
    omega

theorem andThen (hf : f.Spends m) (hg : g.Spends n) : (f.andThen g).Spends (m + n) := by
  intro l l' h
  obtain ⟨middle, hmiddle, h⟩ := Option.bind_eq_some_iff.mp h
  have hfirst := hf l middle hmiddle
  have hsecond := hg middle l' h
  omega

end LayoutStep.Spends

/-! ### Classes -/

section

variable {α : Type} [DecidableEq α]

/-- A state takes room if it is laid out. -/
theorem room_state (slot : UInt64) (key : α) (successors : Nat) (s : Shared α) :
    (s.state slot key successors).2.layout.room ≤ s.layout.room + 32 + successors := by
  rw [Shared.state]
  split
  · split
    · exact Nat.le_trans (Nat.le_add_right _ 32) (Nat.le_add_right _ successors)
    · exact Nat.le_refl _
  · exact Nat.le_refl _

/-- The bytes of all sequences of byte ranges. -/
def weight (sequences : List (List ByteRange)) : Nat :=
  (sequences.map List.length).sum

theorem weight_append (a b : List (List ByteRange)) : weight (a ++ b) = weight a + weight b := by
  simp [weight]

theorem weight_tails_le (group : List (List ByteRange)) :
    weight (group.map List.tail) ≤ weight group := by
  induction group with
  | nil => exact Nat.le_refl _
  | cons sequence group ih =>
    simp only [weight, List.map_cons, List.sum_cons, List.length_tail] at ih ⊢
    omega

/-- A group with a first byte is shorter without it. -/
theorem weight_tails_lt {group : List (List ByteRange)} {range : ByteRange}
    (h : group.head?.bind List.head? = some range) :
    weight (group.map List.tail) + 1 ≤ weight group := by
  match group, h with
  | [] :: group, h => cases h
  | (first :: sequence) :: group, _ =>
    have := weight_tails_le group
    simp only [weight, List.map_cons, List.sum_cons, List.length_cons, List.tail_cons] at this ⊢
    omega

/-- What a group of sequences with one first byte range adds: a branch to the states of the rest. -/
def layGroup (target depth : Nat) (state : Branching × Shared Branching)
    (group : List (List ByteRange)) : Branching × Shared Branching :=
  (group.head?.bind List.head?).elim state fun range =>
    let laid := layForward target depth (group.map List.tail) state.2
    ((range, laid.1) :: state.1, laid.2)

theorem layForward_succ (target depth : Nat) (sequences : List (List ByteRange))
    (s : Shared Branching) (h : ¬ sequences.all List.isEmpty = true) :
    layForward target (depth + 1) sequences s =
      let laid := (sequences.splitBy fun a b => a.head? == b.head?).foldl (layGroup target depth)
        ([], s)
      laid.2.state (branchingSlot laid.1.reverse) laid.1.reverse
        (Layout.rangeRoom * laid.1.reverse.length) := by
  rw [layForward, if_neg h]
  refine congrArg (fun laid : Branching × Shared Branching =>
    laid.2.state (branchingSlot laid.1.reverse) laid.1.reverse
      (Layout.rangeRoom * laid.1.reverse.length)) ?_
  congr 1
  funext state group
  rw [layGroup]
  cases group.head?.bind List.head? <;> rfl

/-- The room of groups of sequences: each group has a byte that its rest lacks, which pays for its
branch. -/
theorem room_foldl_layGroup {target depth : Nat}
    (hdepth : ∀ sequences s, (layForward target depth sequences s).2.layout.room ≤
      s.layout.room + 40 * weight sequences + 32)
    (groups : List (List (List ByteRange))) (state : Branching × Shared Branching) :
    (groups.foldl (layGroup target depth) state).2.layout.room +
        8 * (groups.foldl (layGroup target depth) state).1.length ≤
      state.2.layout.room + 8 * state.1.length + 40 * weight groups.flatten := by
  induction groups generalizing state with
  | nil => simp [weight]
  | cons group groups ih =>
    rw [List.foldl_cons, List.flatten_cons, weight_append]
    refine Nat.le_trans (ih _) ?_
    rw [layGroup]
    cases hhead : group.head?.bind List.head? with
    | none =>
      rw [Option.elim_none]
      omega
    | some range =>
      -- A group is laid out as its tails, which are lighter by the head that they share.
      have hgroup := hdepth (group.map List.tail) state.2
      have hshort := weight_tails_lt hhead
      simp only [Option.elim_some, List.length_cons]
      omega

/-- The room of sequences that are read forward. -/
theorem room_layForward (target depth : Nat) (sequences : List (List ByteRange))
    (s : Shared Branching) : (layForward target depth sequences s).2.layout.room ≤
      s.layout.room + 40 * weight sequences + 32 := by
  induction depth generalizing sequences s with
  | zero => simp only [layForward]; omega
  | succ depth ih =>
    by_cases hempty : sequences.all List.isEmpty = true
    · rw [layForward, if_pos hempty]
      simp only
      omega
    · have hgroups := room_foldl_layGroup ih
        (sequences.splitBy fun a b => a.head? == b.head?) ([], s)
      rw [List.flatten_splitBy] at hgroups
      rw [layForward_succ _ _ _ _ hempty]
      refine Nat.le_trans (room_state _ _ _ _) ?_
      rw [List.length_reverse]
      have hsum : ∀ {room branches : Nat}, room + 8 * branches ≤ s.layout.room + 8 * 0 +
          40 * weight sequences → room + 32 + 8 * branches ≤
            s.layout.room + 40 * weight sequences + 32 := by omega
      exact hsum hgroups

/-- The room of one sequence that is read backward. -/
theorem room_layBackward (target : Nat) (s : Shared (Nat × ByteRange)) (sequence : List ByteRange) :
    (layBackward target s sequence).layout.room ≤ s.layout.room + 32 * sequence.length := by
  have hfold : ∀ (next : Nat) (s : Shared (Nat × ByteRange)), (sequence.foldl (fun state range =>
      state.2.state (rangeSlot (state.1, range)) (state.1, range) 0) (next, s)).2.layout.room ≤
        s.layout.room + 32 * sequence.length := by
    induction sequence with
    | nil => exact fun next s => Nat.le_refl _
    | cons range sequence ih =>
      intro next s
      have hstate := room_state (rangeSlot (next, range)) (next, range) 0 s
      rw [List.foldl_cons, List.length_cons, Nat.mul_succ]
      refine Nat.le_trans (ih _ _) ?_
      rw [Nat.add_comm _ 32, ← Nat.add_assoc]
      exact Nat.add_le_add_right hstate _
  exact hfold target s

theorem room_foldl_layBackward (target : Nat) (sequences : List (List ByteRange))
    (s : Shared (Nat × ByteRange)) :
    (sequences.foldl (layBackward target) s).layout.room ≤
      s.layout.room + 32 * weight sequences := by
  induction sequences generalizing s with
  | nil => exact Nat.le_refl _
  | cons sequence sequences ih =>
    have hfirst := room_layBackward target s sequence
    rw [List.foldl_cons]
    refine Nat.le_trans (ih _) ?_
    simp only [weight, List.map_cons, List.sum_cons]
    omega

/-- The room of a class by its sequences. -/
theorem within_laySequences (direction : Direction) (sequences : List (List ByteRange)) :
    (laySequences direction sequences).Within
    (64 + 40 * weight sequences + 4 * sequences.length) := by
  cases direction with
  | forward =>
    change LayoutStep.Within
      (fun l => (layForward l.states 5 sequences ⟨l.grow 1 0, ∅⟩).2.layout.checked) _
    refine LayoutStep.Within.of_checked fun l => ?_
    refine Nat.le_trans (room_layForward l.states 5 sequences _) ?_
    simp only [Layout.grow, Layout.stateRoom]
    omega
  | backward =>
    change LayoutStep.Within (fun l => (sequences.foldl (layBackward (l.states + 1))
      ⟨l.grow 2 (Layout.edgeRoom * sequences.length), ∅⟩).layout.checked) _
    refine LayoutStep.Within.of_checked fun l => ?_
    refine Nat.le_trans (room_foldl_layBackward (l.states + 1) sequences _) ?_
    simp only [Layout.grow, Layout.stateRoom, Layout.edgeRoom]
    omega

end

namespace ByteRange

/-- A range is cut into few parts. -/
theorem length_alignTo_le (blocks : List Nat) (lo hi : Nat) :
    (alignTo blocks lo hi).length ≤ 2 * blocks.length + 1 := by
  induction blocks generalizing lo hi with
  | nil =>
    rw [alignTo]
    split <;> simp
  | cons block larger ih =>
    rw [alignTo]
    split
    · simp
    · split
      · simp
      · simp only [List.length_append, List.length_cons]
        have hmiddle := ih ((lo + block - 1) / block * block) ((hi + 1) / block * block - 1)
        split <;> split <;> simp only [List.length_cons, List.length_nil] <;> omega

theorem length_spell_le (lo hi : Nat) : (spell lo hi).length ≤ 4 := by
  rw [spell, List.length_zipWith, String.length_utf8EncodeChar]
  exact Nat.le_trans (Nat.min_le_left _ _) (Char.utf8Size_le_four _)

theorem length_flatMap_le {α β : Type} {f : α → List β} {n : Nat} (h : ∀ x, (f x).length ≤ n)
    (l : List α) : (l.flatMap f).length ≤ n * l.length := by
  induction l with
  | nil => exact Nat.le_refl _
  | cons x l ih =>
    rw [List.flatMap_cons, List.length_append, List.length_cons, Nat.mul_succ, Nat.add_comm (n * _)]
    exact Nat.add_le_add (h x) ih

/-- A range has few sequences: at most seven for each number of bytes. -/
theorem length_sequences_le (members : CharClass) :
    (sequences members).length ≤ 35 * members.ranges.length := by
  have hpiece : ∀ (lo hi : Nat) (piece : Nat × Nat),
      ((alignTo [64, 4096, 262144] (max lo piece.1) (min hi piece.2)).map fun part =>
        spell part.1 part.2).length ≤ 7 := by
    intro lo hi piece
    rw [List.length_map]
    exact length_alignTo_le [64, 4096, 262144] _ _
  have hrange : ∀ range : Nat × Nat, (sameLength.flatMap fun piece =>
      (alignTo [64, 4096, 262144] (max range.1 piece.1) (min range.2 piece.2)).map fun part =>
        spell part.1 part.2).length ≤ 35 := fun range =>
    length_flatMap_le (hpiece range.1 range.2) sameLength
  exact length_flatMap_le hrange members.ranges

theorem weight_sequences_le (members : CharClass) :
    weight (sequences members) ≤ 4 * (sequences members).length := by
  have hall : ∀ sequence ∈ sequences members, sequence.length ≤ 4 := by
    intro sequence h
    simp only [sequences, List.mem_flatMap, List.mem_map] at h
    obtain ⟨_, -, _, -, _, -, rfl⟩ := h
    exact length_spell_le _ _
  rw [weight]
  generalize sequences members = all at hall ⊢
  induction all with
  | nil => exact Nat.le_refl _
  | cons sequence rest ih =>
    have hfirst := hall sequence List.mem_cons_self
    have hrest := ih fun s hs => hall s (List.mem_cons_of_mem _ hs)
    rw [List.map_cons, List.sum_cons, List.length_cons]
    omega

end ByteRange

/-- The room of a class by the number of its ranges. -/
theorem within_layClass (direction : Direction) (accepted : CharClass) :
    (layClass direction accepted).Within (64 + 5740 * accepted.ranges.length) := by
  rw [layClass]
  split
  · exact (LayoutStep.Within.states 2 _).mono (by simp [Layout.rangeRoom]; omega)
  · have hlength := ByteRange.length_sequences_le accepted
    have hweight := ByteRange.weight_sequences_le accepted
    exact (within_laySequences direction _).mono (by omega)

/-! ### Choices between literals -/

/-- What is laid out adds the same room wherever it starts. -/
def Shifts (lay : Layout → Layout) : Prop :=
  ∀ l, (lay l).room = l.room + (lay .start).room

namespace Shifts

variable {f g : Layout → Layout}

theorem comp (hf : Shifts f) (hg : Shifts g) : Shifts fun l => g (f l) := by
  intro l
  rw [hg (f l), hg (f .start), hf l, Nat.add_assoc]

theorem refl : Shifts id := fun _ => rfl

theorem grow (states successors : Nat) : Shifts (Layout.grow states successors) := by
  intro l
  simp only [Layout.grow, Layout.start]
  omega

theorem foldl {α : Type} {f : Layout → α → Layout} {xs : List α}
    (h : ∀ x, Shifts fun l => f l x) : Shifts fun l => xs.foldl f l := by
  induction xs with
  | nil => exact refl
  | cons x xs ih => exact (h x).comp ih

end Shifts

theorem shifts_layWords (depth : Nat) (words : List Bytes) : Shifts (layWords depth words) := by
  induction depth generalizing words with
  | zero => exact .refl
  | succ depth ih =>
    refine ((Shifts.foldl fun rest => ?_).comp (.foldl fun chunk => ?_)).comp (.grow 1 _)
    · split
      · exact .refl
      · exact ih rest
    · split
      · exact .refl
      · exact .grow 1 0
      · exact .grow 1 _

theorem Layout.room_le_of_checked {l : Layout} {n : Nat}
    (h : l.checked.any (·.room ≤ n) = true) : l.room ≤ n := by
  rw [checked] at h
  split at h
  · cases h
  · exact of_decide_eq_true h

/-- A choice between literals takes what it takes where nothing is laid out yet. -/
theorem within_layLiterals {direction : Direction} {literals : List Text} {n : Nat}
    (h : (layLiterals direction literals .start).any (·.room ≤ n) = true) :
    (layLiterals direction literals).Within n := by
  refine LayoutStep.Within.of_checked fun l => ?_
  rw [((Shifts.grow 1 0).comp (shifts_layWords _ _)) l]
  exact Nat.add_le_add_left (Layout.room_le_of_checked h) _

/-! ### Expressions -/

namespace Expr

/-- The automata of an expression take no more than some room. -/
def Takes (e : Expr) (n : Nat) : Prop :=
  ∀ direction, (laySteps direction e).1.Within n

variable {a b : Expr} {m n : Nat}

theorem Takes.mono (h : a.Takes m) (hle : m ≤ n) : a.Takes n :=
  fun direction => (h direction).mono hle

theorem takes_literal (text : Text) : (literal text).Takes (32 * Text.byteSize text) := by
  intro direction
  rw [laySteps]
  exact LayoutStep.Within.states _ 0

theorem takes_one (accepted : CharClass) :
    (one accepted).Takes (64 + 5740 * accepted.ranges.length) := by
  intro direction
  rw [laySteps]
  exact within_layClass direction accepted

theorem takes_look (condition : Look) : (look condition).Takes 32 := by
  intro direction
  rw [laySteps]
  exact LayoutStep.Within.plain

theorem takes_ofClass (accepted : CharClass) :
    (ofClass accepted).Takes (64 + 5740 * accepted.ranges.length) := by
  rw [ofClass]
  split
  · rename_i lo hi hranges
    split
    · have hsize := Char.utf8Size_le_four (Char.ofNat lo)
      refine (takes_literal _).mono ?_
      simp only [Text.byteSize, hranges, List.length_singleton]
      omega
    · exact takes_one accepted
  · exact takes_one accepted

theorem Takes.group (index : Nat) (h : a.Takes n) : (group index a).Takes (n + 64) := by
  intro direction
  rw [laySteps]
  cases direction with
  | forward =>
    exact ((LayoutStep.Within.plain.andThen (h .forward)).andThen .plain).mono (by omega)
  | backward => exact (h .backward).mono (by omega)

theorem Takes.seq (ha : a.Takes m) (hb : b.Takes n) : (seq a b).Takes (m + n) := by
  intro direction
  rw [laySteps]
  cases direction with
  | forward => exact (ha .forward).andThen (hb .forward)
  | backward => exact ((hb .backward).andThen (ha .backward)).mono (by omega)

/-- Rounds without an end are laid out as often as they are asked for, or once. -/
theorem Takes.rep (least : Nat) (greedy : Bool) (h : a.Takes n) :
    (rep least none greedy a).Takes (max least 1 * n + 112) := by
  intro direction
  have hround := h direction
  have hrounds : ∀ fills,
      (layRepetition least none fills (laySteps direction a).1).Within (max least 1 * n + 112) := by
    intro fills
    -- The round is forked around when it may be left out, or laid out as often as it must be
    -- taken.
    match least, fills with
    | 0, true =>
      have hstep := LayoutStep.Within.fork.andThen hround
      exact hstep.mono (by rw [Nat.max_eq_right (Nat.zero_le 1)]; omega)
    | 0, false =>
      have hstep := (hround.andThen .fork).andThen (LayoutStep.Within.fork.andThen .plain)
      exact hstep.mono (by rw [Nat.max_eq_right (Nat.zero_le 1)]; omega)
    | least + 1, _ =>
      have hstep := (hround.times (least + 1)).andThen .fork
      refine hstep.mono ?_
      rw [Nat.max_eq_left (Nat.le_add_left 1 least)]
      omega
  exact hrounds _

theorem Takes.times (count : Nat) (greedy : Bool) (h : a.Takes n) :
    (Expr.rep count (some count) greedy a).Takes (count * n) := by
  intro direction
  have hrounds : ∀ fills, layRepetition count (some count) fills (laySteps direction a).1 =
      (laySteps direction a).1.times count := by
    intro fills
    rw [layRepetition.eq_def]
    split
    · rename_i heq
      cases heq
    · rename_i heq
      cases heq
    · rename_i heq
      cases heq
    · rename_i heq
      cases heq
      exact if_pos rfl
  change (layRepetition count (some count) _ (laySteps direction a).1).Within _
  rw [hrounds]
  exact (h direction).times count

/-! A choice lays out the step of each branch, with a state in front that goes on to all. -/

theorem branches_ne_nil (e : Expr) : e.branches ≠ [] := by
  induction e with
  | alt a b iha ihb => simp [branches, iha]
  | _ => simp [branches]

/-- What is no choice has its own step as its only branch. -/
theorem laySteps_snd {e : Expr} (h : e.branches = [e]) (direction : Direction) :
    (laySteps direction e).2 = [(laySteps direction e).1] := by
  cases e with
  | alt a b =>
    have hlength := congrArg List.length h
    have ha := List.length_pos_iff.mpr (branches_ne_nil a)
    have hb := List.length_pos_iff.mpr (branches_ne_nil b)
    rw [branches, List.length_append, List.length_singleton] at hlength
    omega
  | group index body => cases direction <;> rfl
  | seq a b => cases direction <;> rfl
  | _ => rfl

theorem laySteps_alt (direction : Direction) (a b : Expr) :
    laySteps direction (alt a b) =
      (((alt a b).branches.mapM literal?).elim
        (layBranches ((laySteps direction a).1 :: (laySteps direction b).2))
        (layLiterals direction), (laySteps direction a).1 :: (laySteps direction b).2) := by
  rw [laySteps]
  cases (alt a b).branches.mapM literal? <;> rfl

theorem within_foldl_andThen {steps : List LayoutStep} {sizes : List Nat} {f : LayoutStep}
    {n : Nat} (h : List.Forall₂ LayoutStep.Within steps sizes) (hf : f.Within n) :
    (steps.foldl .andThen f).Within (n + sizes.sum) := by
  induction h generalizing f n with
  | nil => exact hf
  | cons hstep _ ih => exact (ih (hf.andThen hstep)).mono (by rw [List.sum_cons]; omega)

theorem within_layBranches {steps : List LayoutStep} {sizes : List Nat}
    (h : List.Forall₂ LayoutStep.Within steps sizes) :
    (layBranches steps).Within (sizes.sum + 4 * sizes.length + 64) := by
  match h with
  | .nil => exact LayoutStep.Within.plain.mono (by omega)
  | .cons hf .nil => exact hf.mono (by simp; omega)
  | .cons hf (.cons hg hmore) =>
    rw [layBranches]
    refine (within_foldl_andThen hmore ((hf.andThen hg).andThen (.states 2 _))).mono ?_
    simp only [Layout.edgeRoom, hmore.length_eq, List.sum_cons, List.length_cons]
    omega

/-- The branches of a choice that was made of them, and their steps. -/
theorem branches_ofBranches {e : Expr} {parts : List Expr}
    (h : ∀ part ∈ e :: parts, part.branches = [part]) (direction : Direction) :
    (ofBranches (e :: parts)).branches = e :: parts ∧
      (laySteps direction (ofBranches (e :: parts))).2 =
        (e :: parts).map fun part => (laySteps direction part).1 := by
  induction parts generalizing e with
  | nil =>
    have he := h e List.mem_cons_self
    exact ⟨he, laySteps_snd he direction⟩
  | cons next parts ih =>
    obtain ⟨hbranches, hsteps⟩ := ih fun part hpart => h part (List.mem_cons_of_mem e hpart)
    have he := h e List.mem_cons_self
    constructor
    · rw [ofBranches, branches, hbranches, he]
      · rfl
      · simp
    · rw [ofBranches, laySteps_alt, hsteps]
      · rfl
      · simp

/-- A choice between branches that are no literals lays them out one by one. -/
theorem laySteps_ofBranches {parts : List Expr} (hsingle : ∀ part ∈ parts, part.branches = [part])
    (hliteral : ∀ part ∈ parts, part.literal? = none) (direction : Direction) :
    (laySteps direction (ofBranches parts)).1 =
      layBranches (parts.map fun part => (laySteps direction part).1) := by
  match parts with
  | [] => rfl
  | [e] => rfl
  | e :: next :: parts =>
    obtain ⟨hbranches, hsteps⟩ := branches_ofBranches hsingle direction
    have halt : ofBranches (e :: next :: parts) = alt e (ofBranches (next :: parts)) := rfl
    rw [halt] at hbranches hsteps ⊢
    rw [← hsteps, laySteps_alt, hbranches, List.mapM_cons, hliteral e List.mem_cons_self]
    rfl

/-- Such a choice takes the room of its branches. -/
theorem takes_ofBranches {parts : List Expr} {sizes : List Nat}
    (hsingle : ∀ part ∈ parts, part.branches = [part])
    (hliteral : ∀ part ∈ parts, part.literal? = none) (h : List.Forall₂ Takes parts sizes) :
    (ofBranches parts).Takes (sizes.sum + 4 * sizes.length + 64) := by
  intro direction
  rw [laySteps_ofBranches hsingle hliteral]
  refine within_layBranches ?_
  rw [List.forall₂_map_left_iff]
  exact h.imp fun _ _ hpart => hpart direction

/-- A choice between two literals takes what it takes where nothing is laid out yet. -/
theorem takes_alt_literal {s t : Text}
    (h : ∀ direction ∈ [Direction.forward, .backward],
      (layLiterals direction [s, t] .start).any (·.room ≤ n) = true) :
    (alt (literal s) (literal t)).Takes n := by
  intro direction
  rw [laySteps_alt]
  exact within_layLiterals (h direction (by cases direction <;> decide))

/-- An expression that takes little room fits. -/
theorem fits_of_takes (h : a.Takes n) (hn : n + 208 ≤ Layout.limit) : a.fits = true := by
  have hstart : Layout.start.room + (n + 208) ≤ Layout.limit :=
    Nat.le_trans (Nat.le_of_eq (Nat.zero_add _)) hn
  have hsome : ∀ direction, (a.lay direction).isSome = true := by
    intro direction
    have hsearch : ∀ bound : Bool, LayoutStep.Within (if bound then .plain else
        .states 3 (2 * Layout.edgeRoom + Layout.rangeRoom)) 112 := by
      intro bound
      cases bound with
      | true => exact LayoutStep.Within.plain.mono (by omega)
      | false => exact LayoutStep.Within.states 3 _
    -- Around the expression stand the states that mark its match, and those of a search.
    have haround : ∀ around ≤ 1, ∀ bound : Bool, (((LayoutStep.andThen (if bound then .plain else
        .states 3 (2 * Layout.edgeRoom + Layout.rangeRoom)) (.states around 0)).andThen
          (laySteps direction a).1).andThen (.states (around + 1) 0)).Within (n + 208) :=
      fun around hle bound =>
        ((((hsearch bound).andThen (.states around 0)).andThen (h direction)).andThen
          (.states (around + 1) 0)).mono (by omega)
    cases direction with
    | forward =>
      obtain ⟨l, hl, -⟩ := haround 1 (Nat.le_refl 1) a.isAtStart .start hstart
      exact Option.isSome_of_eq_some hl
    | backward =>
      obtain ⟨l, hl, -⟩ := haround 0 (Nat.zero_le 1) a.isAtEnd .start hstart
      exact Option.isSome_of_eq_some hl
  rw [fits, hsome, hsome, Bool.and_self, Bool.or_true]

end Expr

end Pattern

end DesignTokens
