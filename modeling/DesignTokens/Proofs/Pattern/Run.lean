import DesignTokens.Pattern.Match
import DesignTokens.Proofs.Text.Places
import Mathlib.Algebra.GroupWithZero.Nat

/-! # What automata accept

An automaton accepts a text at a place if a run leads from its first state to the one that accepts
and takes the text on its way. The states noted when a text is swept are exactly those from which
such a run starts, so a pattern matches a text if and only if the text has a part that its automaton
accepts there.

## Main definitions

* `Pattern.Automaton.Run` - a run through an automaton, between the neighbours of a text
* `Pattern.Automaton.Sourced` - an automaton that knows which states lead to which
* `Pattern.Matches` - a part of a text that a pattern accepts

## Main results

* `Pattern.Automaton.complete_spread` - the work list finds the states that lead to given ones
* `Pattern.Automaton.contains_viable_iff` - the states noted are those that runs start from
* `Pattern.isMatch_iff` - a pattern matches where it accepts a part
* `Pattern.touches_of_matches` - where a pattern accepts a part a hit lies
-/

namespace DesignTokens.Pattern

open Text

/-! ### Sets of states -/

namespace StateSet

theorem contains_insert (s : StateSet) (p q : Nat) :
    (s.insert q).contains p = true ↔ p = q ∨ s.contains p = true := by
  rw [contains, contains, insert, Nat.testBit_or, Nat.one_shiftLeft, Nat.testBit_two_pow,
    Bool.or_eq_true, decide_eq_true_eq, or_comm, eq_comm]

theorem not_contains_empty (p : Nat) : ¬ empty.contains p = true := by
  simp [empty, contains]

/-- The list of a set has the members that its bits say. -/
def Consistent (s : StateSet) : Prop :=
  ∀ q, q ∈ s.members ↔ s.contains q = true

theorem consistent_empty : Consistent empty := by
  intro q
  exact ⟨fun h => absurd h List.not_mem_nil, fun h => absurd h (not_contains_empty q)⟩

theorem Consistent.insert {s : StateSet} (h : s.Consistent) (q : Nat) :
    (s.insert q).Consistent := by
  intro p
  rw [contains_insert, ← h p]
  exact List.mem_cons

section

variable {s : StateSet} {p x : Nat} {todo : List Nat}

/-- Where the first entry of a work list is done, the others are left to do. -/
theorem contains_or_mem_of_done (hx : p = x → s.contains p = true)
    (h : s.contains p = true ∨ p ∈ x :: todo) : s.contains p = true ∨ p ∈ todo := by
  rcases h with h | h
  · exact .inl h
  · rcases List.mem_cons.mp h with heq | h
    · exact .inl (hx heq)
    · exact .inr h

/-- Where the first entry of a work list is put in a set, no entry is lost. -/
theorem contains_or_mem_of_insert (more : List Nat) (h : s.contains p = true ∨ p ∈ x :: todo) :
    (s.insert x).contains p = true ∨ p ∈ more ++ todo := by
  rw [contains_insert, List.mem_append]
  rcases h with h | h
  · exact .inl (.inr h)
  · rcases List.mem_cons.mp h with heq | h
    · exact .inl (.inl heq)
    · exact .inr (.inr h)

end

end StateSet

namespace Automaton

/-! ### Runs -/

/-- One state leads to another. -/
def Leads (a : Automaton) (p q : Nat) : Prop :=
  q < a.states.size ∧ ∃ state, a.states[p]? = some state ∧ q ∈ state.targets

/-- A run from a state, at a place after the character `before`: it takes the text and accepts in
front of the character `after`. -/
inductive Run (a : Automaton) : Option Char → Nat → Text → Option Char → Prop where
  | accept {before after : Option Char} : Run a before 0 [] after
  | take {before after : Option Char} {p q : Nat} {c : Char} {t : Text}
      (takes : a.takes c p = true) (leads : a.Leads p q) (rest : Run a (some c) q t after) :
      Run a before p (c :: t) after
  | pass {before after : Option Char} {p q : Nat} {t : Text}
      (passes : a.passes before (t.head?.or after) p = true) (leads : a.Leads p q)
      (rest : Run a before q t after) : Run a before p t after

/-- A run from a state at a place takes a beginning of the text that follows. -/
def Starts (a : Automaton) (before : Option Char) (p : Nat) (t : Text) : Prop :=
  ∃ taken rest, t = taken ++ rest ∧ a.Run before p taken rest.head?

section

variable {a : Automaton} {before : Option Char} {p q : Nat} {c : Char} {t : Text}

theorem Starts.accept : a.Starts before 0 t :=
  ⟨[], t, rfl, .accept⟩

theorem Starts.take (htakes : a.takes c p = true) (hleads : a.Leads p q)
    (h : a.Starts (some c) q t) : a.Starts before p (c :: t) := by
  obtain ⟨taken, rest, rfl, hrun⟩ := h
  exact ⟨c :: taken, rest, rfl, .take htakes hleads hrun⟩

theorem Starts.pass (hpasses : a.passes before t.head? p = true) (hleads : a.Leads p q)
    (h : a.Starts before q t) : a.Starts before p t := by
  obtain ⟨taken, rest, rfl, hrun⟩ := h
  rw [List.head?_append] at hpasses
  exact ⟨taken, rest, rfl, .pass hpasses hleads hrun⟩

/-- Runs start from no more states than these ways out of a state allow. -/
theorem Starts.induction {P : Option Char → Nat → Text → Prop}
    (accept : ∀ before t, P before 0 t)
    (take : ∀ before p q c t, a.takes c p = true → a.Leads p q → P (some c) q t →
      P before p (c :: t))
    (pass : ∀ before p q t, a.passes before t.head? p = true → a.Leads p q → P before q t →
      P before p t)
    (h : a.Starts before p t) : P before p t := by
  obtain ⟨taken, rest, rfl, hrun⟩ := h
  generalize hafter : rest.head? = after at hrun
  induction hrun with
  | accept => exact accept _ _
  | take htakes hleads _ ih => exact take _ _ _ _ _ htakes hleads (ih hafter)
  | pass hpasses hleads _ ih =>
    subst hafter
    rw [← List.head?_append] at hpasses
    exact pass _ _ _ _ hpasses hleads (ih rfl)

end

/-! ### The states that lead to a state -/

/-- The number of entries of an array of lists. -/
def total (sources : Array (List Nat)) : Nat :=
  (sources.toList.map List.length).sum

theorem sum_length_modify_le (l : List (List Nat)) (i n : Nat) :
    ((l.modify i (n :: ·)).map List.length).sum ≤ (l.map List.length).sum + 1 := by
  induction l generalizing i with
  | nil => simp
  | cons x l ih =>
    cases i with
    | zero => simp; omega
    | succ i =>
      have := ih i
      simp
      omega

/-- Files a state under all states that it leads to. -/
def fileUnder (n : Nat) (targets : List Nat) (sources : Array (List Nat)) : Array (List Nat) :=
  targets.foldl (fun sources target => sources.modify target (n :: ·)) sources

theorem size_fileUnder (n : Nat) (targets : List Nat) (sources : Array (List Nat)) :
    (fileUnder n targets sources).size = sources.size := by
  induction targets generalizing sources with
  | nil => rfl
  | cons target targets ih => exact (ih _).trans (by simp)

theorem total_fileUnder_le (n : Nat) (targets : List Nat) (sources : Array (List Nat)) :
    total (fileUnder n targets sources) ≤ total sources + targets.length := by
  induction targets generalizing sources with
  | nil => exact Nat.le_refl _
  | cons target targets ih =>
    have hstep : total (sources.modify target (n :: ·)) ≤ total sources + 1 := by
      rw [total, total, Array.toList_modify]
      exact sum_length_modify_le _ _ _
    have := ih (sources.modify target (n :: ·))
    rw [List.length_cons]
    exact Nat.le_trans this (by omega)

theorem mem_getD_modify {n p q target : Nat} {sources : Array (List Nat)} :
    p ∈ (sources.modify target (n :: ·)).getD q [] ↔
      p ∈ sources.getD q [] ∨ p = n ∧ q = target ∧ q < sources.size := by
  rw [Array.getD_eq_getD_getElem?, Array.getD_eq_getD_getElem?, Array.getElem?_modify]
  by_cases hq : q < sources.size
  · by_cases ht : target = q
    · subst ht
      simp [hq, or_comm]
    · simp [hq, ht, Ne.symm ht]
  · simp [hq]

theorem mem_getD_fileUnder {n p q : Nat} {targets : List Nat} {sources : Array (List Nat)} :
    p ∈ (fileUnder n targets sources).getD q [] ↔
      p ∈ sources.getD q [] ∨ p = n ∧ q ∈ targets ∧ q < sources.size := by
  induction targets generalizing sources with
  | nil => simp [fileUnder]
  | cons target targets ih =>
    refine ih.trans ?_
    rw [mem_getD_modify, Array.size_modify, List.mem_cons]
    tauto

/-- Files states, the first of which has the number `n`. -/
def fileAll (sources : Array (List Nat)) (n : Nat) (states : List State) : Array (List Nat) :=
  (states.foldl (fun (sources, n) state => (fileUnder n state.targets sources, n + 1))
    (sources, n)).1

theorem fileAll_cons (sources : Array (List Nat)) (n : Nat) (state : State) (states : List State) :
    fileAll sources n (state :: states) =
      fileAll (fileUnder n state.targets sources) (n + 1) states := rfl

theorem sourcesOf_eq_fileAll (states : Array State) :
    sourcesOf states = fileAll (Array.replicate states.size []) 0 states.toList := by
  rw [sourcesOf, fileAll, Array.foldl_toList]
  rfl

/-- Which states lead to one depends on where the states lead only. -/
theorem sourcesOf_congr {states others : Array State}
    (h : states.map State.targets = others.map State.targets) :
    sourcesOf states = sourcesOf others := by
  have htargets : ∀ states : Array State, sourcesOf states =
      ((states.map State.targets).foldl
        (fun (sources, n) targets => (fileUnder n targets sources, n + 1))
        (Array.replicate (states.map State.targets).size [], 0)).1 := by
    intro states
    rw [sourcesOf, Array.foldl_map, Array.size_map]
    rfl
  rw [htargets, htargets, h]

theorem size_fileAll (sources : Array (List Nat)) (n : Nat) (states : List State) :
    (fileAll sources n states).size = sources.size := by
  induction states generalizing sources n with
  | nil => rfl
  | cons state states ih => rw [fileAll_cons, ih, size_fileUnder]

theorem length_targets_le (state : State) : state.targets.length ≤ 2 := by
  cases state <;> simp [State.targets]

theorem total_fileAll_le (sources : Array (List Nat)) (n : Nat) (states : List State) :
    total (fileAll sources n states) ≤ total sources + 2 * states.length := by
  induction states generalizing sources n with
  | nil => exact Nat.le_refl _
  | cons state states ih =>
    have hrest := ih (fileUnder n state.targets sources) (n + 1)
    have hfirst := total_fileUnder_le n state.targets sources
    have htargets := length_targets_le state
    rw [fileAll_cons, List.length_cons]
    omega

theorem mem_getD_fileAll {n p q : Nat} {states : List State} {sources : Array (List Nat)} :
    p ∈ (fileAll sources n states).getD q [] ↔ p ∈ sources.getD q [] ∨
      q < sources.size ∧ ∃ k state, p = n + k ∧ states[k]? = some state ∧ q ∈ state.targets := by
  induction states generalizing sources n with
  | nil => simp [fileAll]
  | cons state states ih =>
    rw [fileAll_cons, ih, mem_getD_fileUnder, size_fileUnder]
    constructor
    · rintro ((h | ⟨rfl, htarget, hq⟩) | ⟨hq, k, s, rfl, hs, htarget⟩)
      · exact .inl h
      · exact .inr ⟨hq, 0, state, rfl, rfl, htarget⟩
      · exact .inr ⟨hq, k + 1, s, by omega, hs, htarget⟩
    · rintro (h | ⟨hq, k, s, rfl, hs, htarget⟩)
      · exact .inl (.inl h)
      · cases k with
        | zero =>
          obtain rfl : state = s := by simpa using hs
          exact .inl (.inr ⟨rfl, htarget, hq⟩)
        | succ k => exact .inr ⟨hq, k, s, by omega, by simpa using hs, htarget⟩

/-- An automaton that knows which states lead to which. -/
def Sourced (a : Automaton) : Prop :=
  a.sources = sourcesOf a.states

theorem sourced_ofExpr (e : Expr) : (ofExpr e).Sourced := rfl

theorem mem_leadingTo_iff {a : Automaton} (h : a.Sourced) {p q : Nat} :
    p ∈ a.leadingTo q ↔ a.Leads p q := by
  rw [leadingTo, h, sourcesOf_eq_fileAll, mem_getD_fileAll, Leads, Array.size_replicate]
  have hnone : p ∉ (Array.replicate a.states.size ([] : List Nat)).getD q [] := by
    rw [Array.getD_eq_getD_getElem?, Array.getElem?_replicate]
    split <;> simp
  constructor
  · rintro (hmem | ⟨hq, k, state, rfl, hstate, htarget⟩)
    · exact absurd hmem hnone
    · exact ⟨hq, state, by simpa using hstate, htarget⟩
  · rintro ⟨hq, state, hstate, htarget⟩
    exact .inr ⟨hq, p, state, by omega, by simpa using hstate, htarget⟩

theorem total_sourcesOf_le (states : Array State) : total (sourcesOf states) ≤ 2 * states.size := by
  have h := total_fileAll_le (Array.replicate states.size []) 0 states.toList
  rw [sourcesOf_eq_fileAll]
  simpa [total] using h

/-! ### The work list -/

/-- The number of entries that states not yet found can add to the work list. -/
def weight (a : Automaton) (found : StateSet) : Nat :=
  ((List.range a.states.size).map fun q =>
    if found.contains q then 0 else (a.leadingTo q).length).sum

theorem sum_range_update (n q : Nat) (f g : Nat → Nat) (hq : g q = 0)
    (hother : ∀ p, p ≠ q → g p = f p) :
    ((List.range n).map g).sum + (if q < n then f q else 0) = ((List.range n).map f).sum := by
  induction n with
  | zero => simp
  | succ n ih =>
    rw [List.range_succ, List.map_append, List.map_append, List.sum_append, List.sum_append]
    by_cases hn : n = q
    · subst hn
      simp [hq] at ih ⊢
      omega
    · have := hother n hn
      simp only [List.map_cons, List.map_nil, List.sum_cons, List.sum_nil] at ih ⊢
      split at ih <;> split <;> omega

theorem leadingTo_of_le {a : Automaton} (h : a.Sourced) {q : Nat} (hq : a.states.size ≤ q) :
    a.leadingTo q = [] := by
  refine List.eq_nil_iff_forall_not_mem.mpr fun p hp => ?_
  have := ((mem_leadingTo_iff h).mp hp).1
  omega

/-- A state that is found takes what it can add from the weight. -/
theorem weight_insert {a : Automaton} (h : a.Sourced) {found : StateSet} {q : Nat}
    (hq : ¬ found.contains q = true) :
    a.weight (found.insert q) + (a.leadingTo q).length = a.weight found := by
  have hsum := sum_range_update a.states.size q
    (fun q => if found.contains q then 0 else (a.leadingTo q).length)
    (fun p => if (found.insert q).contains p then 0 else (a.leadingTo p).length)
    (by simp [StateSet.contains_insert])
    (by
      intro p hp
      simp [StateSet.contains_insert, hp])
  simp only [hq, Bool.false_eq_true, if_false] at hsum
  rw [weight, weight, ← hsum]
  split
  · rfl
  · rw [leadingTo_of_le h (by omega)]
    rfl

theorem weight_le {a : Automaton} (h : a.Sourced) (found : StateSet) :
    a.weight found ≤ 2 * a.states.size := by
  have htotal := total_sourcesOf_le a.states
  rw [← h] at htotal
  have hsize : a.sources.size = a.states.size := by
    rw [h, sourcesOf_eq_fileAll, size_fileAll, Array.size_replicate]
  -- The weight counts some of the sources, and their total counts all of them.
  have hall : a.weight found ≤ total a.sources := by
    have hmap : a.sources.toList.map List.length =
        (List.range a.states.size).map fun q => (a.leadingTo q).length := by
      refine List.ext_getElem (by simp [hsize]) fun i hi hi' => ?_
      have hlt : i < a.sources.size := by simpa using hi
      simp [leadingTo, hlt]
    rw [weight, total, hmap]
    induction List.range a.states.size with
    | nil => exact Nat.le_refl _
    | cons q l ih =>
      simp only [List.map_cons, List.sum_cons]
      split <;> omega
  omega

section

variable {a : Automaton} {before after : Option Char}

/-- What the work list finds is in every set that has its entries and, with a state, all states that
lead to it without taking a character. -/
theorem spread_sound {P : Nat → Prop}
    (hclosed : ∀ p q, P q → p ∈ a.leadingTo q → a.passes before after p = true → P p)
    {rounds : Nat} {todo : List Nat} {found : StateSet} (htodo : ∀ q ∈ todo, P q)
    (hfound : ∀ q, found.contains q = true → P q) {q : Nat}
    (h : (a.spread before after rounds todo found).contains q = true) : P q := by
  induction rounds generalizing todo found with
  | zero => exact hfound q h
  | succ rounds ih =>
    cases todo with
    | nil => exact hfound q h
    | cons p todo =>
      obtain ⟨hp, htodo⟩ := List.forall_mem_cons.mp htodo
      rw [spread] at h
      split at h
      · exact ih htodo hfound h
      · -- What is put in line leads here without a character, so that what holds here holds there.
        refine ih ?_ ?_ h
        · intro x hx
          rcases List.mem_append.mp hx with hx | hx
          · obtain ⟨hmem, hpass⟩ := List.mem_filter.mp hx
            exact hclosed x p hp hmem hpass
          · exact htodo x hx
        · intro x hx
          rcases (StateSet.contains_insert found x p).mp hx with rfl | hx
          · exact hp
          · exact hfound x hx

/-- A set has given states and, with a state, all states that lead to it without taking a
character. -/
def Complete (a : Automaton) (before after : Option Char) (given : Nat → Prop) (s : StateSet) :
    Prop :=
  (∀ q, given q → s.contains q = true) ∧ ∀ p q, s.contains q = true → p ∈ a.leadingTo q →
    a.passes before after p = true → s.contains p = true

/-- A set is complete for itself if all states that lead to it are in it. -/
theorem complete_of_done {found : StateSet}
    (h : ∀ p q, found.contains q = true → p ∈ a.leadingTo q → a.passes before after p = true →
      found.contains p = true ∨ p ∈ []) :
    a.Complete before after (fun q => found.contains q = true ∨ q ∈ []) found :=
  ⟨fun _ hq => hq.resolve_right List.not_mem_nil,
    fun p q hq hp hpass => (h p q hq hp hpass).resolve_right List.not_mem_nil⟩

/-- The work list finds its entries and all states that lead there without taking a character, if
what it has found so far leads to states that are found or on the list. -/
theorem spread_complete (before after : Option Char) (hsourced : a.Sourced) {rounds : Nat}
    {todo : List Nat} {found : StateSet}
    (hrounds : todo.length + a.weight found ≤ rounds)
    (hpending : ∀ p q, found.contains q = true → p ∈ a.leadingTo q →
      a.passes before after p = true → found.contains p = true ∨ p ∈ todo) :
    a.Complete before after (fun q => found.contains q = true ∨ q ∈ todo)
      (a.spread before after rounds todo found) := by
  induction rounds generalizing todo found with
  | zero =>
    obtain rfl : todo = [] := List.eq_nil_of_length_eq_zero (by omega)
    exact complete_of_done hpending
  | succ rounds ih =>
    cases todo with
    | nil => exact complete_of_done hpending
    | cons x todo =>
      rw [List.length_cons] at hrounds
      rw [spread]
      split
      · rename_i hx
        have hmem : ∀ {q}, found.contains q = true ∨ q ∈ x :: todo →
            found.contains q = true ∨ q ∈ todo :=
          StateSet.contains_or_mem_of_done fun heq => heq ▸ hx
        have hnext := ih (by omega) fun p q hq hp hpass => hmem (hpending p q hq hp hpass)
        exact ⟨fun q hq => hnext.1 q (hmem hq), hnext.2⟩
      · rename_i hx
        -- The entry goes from the list to the set, and what leads to it is put on the list.
        have hweight := weight_insert hsourced hx
        have hmore := List.length_filter_le (a.passes before after) (a.leadingTo x)
        have hmem : ∀ {q}, found.contains q = true ∨ q ∈ x :: todo →
            (found.insert x).contains q = true ∨
              q ∈ (a.leadingTo x).filter (a.passes before after) ++ todo :=
          StateSet.contains_or_mem_of_insert _
        have hrounds' : ((a.leadingTo x).filter (a.passes before after) ++ todo).length +
            a.weight (found.insert x) ≤ rounds := by
          rw [List.length_append]
          omega
        have hnext := ih hrounds' fun p q hq hp hpass => by
          rcases (StateSet.contains_insert found q x).mp hq with rfl | hq
          · exact .inr (List.mem_append_left todo (List.mem_filter.mpr ⟨hp, hpass⟩))
          · exact hmem (hpending p q hq hp hpass)
        exact ⟨fun q hq => hnext.1 q (hmem hq), hnext.2⟩

theorem consistent_spread {rounds : Nat} {todo : List Nat} {found : StateSet}
    (h : found.Consistent) : (a.spread before after rounds todo found).Consistent := by
  induction rounds generalizing todo found with
  | zero => exact h
  | succ rounds ih =>
    cases todo with
    | nil => exact h
    | cons x todo =>
      rw [spread]
      split
      · exact ih h
      · exact ih (h.insert x)

/-! ### The states noted at a place -/

theorem consistent_viable (ahead : StateSet) : (a.viable before after ahead).Consistent :=
  consistent_spread StateSet.consistent_empty

theorem complete_spread (before after : Option Char) (hsourced : a.Sourced) (todo : List Nat) :
    a.Complete before after (· ∈ todo)
      (a.spread before after (todo.length + 2 * a.states.size) todo .empty) := by
  have hweight := Nat.add_le_add_left (weight_le hsourced .empty) todo.length
  have h := spread_complete before after hsourced hweight
    fun p q hq => absurd hq (StateSet.not_contains_empty q)
  exact ⟨fun q hq => h.1 q (.inr hq), h.2⟩

/-- The states that take the next character and lead to states noted at the next place. -/
def taking (a : Automaton) (after : Option Char) (ahead : StateSet) : List Nat :=
  after.elim [] fun c => ahead.members.flatMap fun q => (a.leadingTo q).filter (a.takes c)

theorem viable_eq_spread (after : Option Char) (ahead : StateSet) :
    a.viable before after ahead = a.spread before after
      ((0 :: a.taking after ahead).length + 2 * a.states.size) (0 :: a.taking after ahead)
      .empty := by
  cases after <;> rfl

/-- The states that take the next character are those whose runs go on behind it. -/
theorem mem_taking_iff (hsourced : a.Sourced) {ahead : StateSet} {t : Text}
    (hahead : ∀ c rest, t = c :: rest → ∀ q, q ∈ ahead.members ↔ a.Starts (some c) q rest)
    {p : Nat} : p ∈ a.taking t.head? ahead ↔
      ∃ c rest q, t = c :: rest ∧ a.takes c p = true ∧ a.Leads p q ∧
        a.Starts (some c) q rest := by
  cases t with
  | nil => simp [taking]
  | cons c rest =>
    have hmembers := hahead c rest rfl
    simp only [taking, List.head?_cons, Option.elim_some, List.mem_flatMap, List.mem_filter,
      mem_leadingTo_iff hsourced, hmembers, List.cons.injEq]
    constructor
    · rintro ⟨q, hstarts, hleads, htakes⟩
      exact ⟨c, rest, q, ⟨rfl, rfl⟩, htakes, hleads, hstarts⟩
    · rintro ⟨_, _, q, ⟨rfl, rfl⟩, htakes, hleads, hstarts⟩
      exact ⟨q, hstarts, hleads, htakes⟩

/-- The states noted at a place are those that runs start from, if this holds of the next place. -/
theorem contains_viable_iff (hsourced : a.Sourced) {ahead : StateSet} {t : Text}
    (hahead : ∀ c rest, t = c :: rest → ∀ q, q ∈ ahead.members ↔ a.Starts (some c) q rest)
    {p : Nat} : (a.viable before t.head? ahead).contains p = true ↔ a.Starts before p t := by
  constructor
  · intro h
    rw [viable_eq_spread] at h
    refine spread_sound (P := fun q => a.Starts before q t) ?_ ?_ ?_ h
    · intro p q hq hp hpass
      exact hq.pass hpass ((mem_leadingTo_iff hsourced).mp hp)
    · intro q hq
      rcases List.mem_cons.mp hq with rfl | hq
      · exact .accept
      · obtain ⟨c, rest, q', rfl, htakes, hleads, hstarts⟩ := (mem_taking_iff hsourced hahead).mp hq
        exact hstarts.take htakes hleads
    · intro q hq
      exact absurd hq (StateSet.not_contains_empty q)
  · intro h
    obtain ⟨hgiven, hclosed⟩ := complete_spread before t.head? hsourced
      (0 :: a.taking t.head? ahead)
    rw [← viable_eq_spread] at hgiven hclosed
    -- The induction is on the run, with the place as an equation: only there are states noted.
    refine (Starts.induction (P := fun b p u => a.Starts b p u ∧ (b = before → u = t →
      (a.viable before t.head? ahead).contains p = true)) ?_ ?_ ?_ h).2 rfl rfl
    · intro b u
      exact ⟨.accept, fun _ _ => hgiven 0 List.mem_cons_self⟩
    · intro b p q c u htakes hleads hq
      refine ⟨hq.1.take htakes hleads, fun _ heq => hgiven p (List.mem_cons_of_mem 0 ?_)⟩
      exact (mem_taking_iff hsourced hahead).mpr ⟨c, u, q, heq.symm, htakes, hleads, hq.1⟩
    · intro b p q u hpass hleads hq
      refine ⟨hq.1.pass hpass hleads, fun hb heq => ?_⟩
      subst hb heq
      exact hclosed p q (hq.2 rfl rfl) ((mem_leadingTo_iff hsourced).mpr hleads) hpass

/-- A text with the states noted at its places, by the text itself. -/
def notes (a : Automaton) (before : Option Char) : Text → List Noted
  | [] => []
  | c :: rest =>
    (c, a.viable before (some c) (a.statesAt (some c) (a.notes (some c) rest))) ::
      a.notes (some c) rest

theorem statesAt_notes (before : Option Char) (t : Text) :
    a.statesAt before (a.notes before t) =
      a.viable before t.head? (match t with
        | [] => .empty
        | c :: rest => a.statesAt (some c) (a.notes (some c) rest)) := by
  cases t <;> rfl

theorem contains_statesAt_notes (hsourced : a.Sourced) {before : Option Char} {t : Text} {p : Nat} :
    (a.statesAt before (a.notes before t)).contains p = true ↔ a.Starts before p t := by
  induction t generalizing before p with
  | nil =>
    rw [statesAt_notes]
    refine contains_viable_iff hsourced ?_
    rintro c rest ⟨⟩
  | cons c t ih =>
    rw [statesAt_notes]
    refine contains_viable_iff hsourced ?_
    rintro _ _ ⟨⟩ q
    rw [← ih]
    have hconsistent : (a.statesAt (some c) (a.notes (some c) t)).Consistent := by
      rw [statesAt_notes]
      exact consistent_viable _
    exact hconsistent q

theorem sweepFrom_eq_notes (earlier t : Text) :
    a.sweepFrom (a.statesAt earlier.head? (a.notes earlier.head? t)) (a.notes earlier.head? t)
      earlier = a.notes none (earlier.reverse ++ t) := by
  induction earlier generalizing t with
  | nil => rfl
  | cons c earlier ih =>
    rw [sweepFrom, List.reverse_cons, List.append_assoc]
    exact ih (c :: t)

theorem sweep_eq_notes (t : Text) : a.sweep t = a.notes none t := by
  have h := sweepFrom_eq_notes (a := a) t.reverse []
  rw [List.reverse_reverse, List.append_nil, List.head?_reverse] at h
  exact h

@[simp] theorem map_fst_notes (before : Option Char) (t : Text) :
    (a.notes before t).map (·.1) = t := by
  induction t generalizing before with
  | nil => rfl
  | cons c t ih => simp [notes, ih]

/-- What follows a place of a text is noted like a text of its own. -/
theorem notes_eq_append {before : Option Char} {t : Text} {x y : List Noted}
    (h : a.notes before t = x ++ y) :
    y = a.notes ((x.map (·.1)).getLast?.or before) (y.map (·.1)) := by
  induction x generalizing before t with
  | nil =>
    have ht : t = y.map (·.1) := by
      rw [← map_fst_notes (a := a) before t, h]
      rfl
    rw [← ht]
    exact h.symm
  | cons n x ih =>
    cases t with
    | nil => cases h
    | cons c t =>
      obtain ⟨rfl, hrest⟩ := List.cons.inj h
      have hlast : ((c :: x.map (·.1)).getLast?).or before =
          (x.map (·.1)).getLast?.or (some c) := by
        rw [List.getLast?_cons]
        cases (x.map (·.1)).getLast? <;> rfl
      rw [List.map_cons, hlast]
      exact ih hrest

/-- The probe answers where a run starts from the first state. -/
theorem answers_probe_iff (hsourced : a.Sourced) {t : Text} {x y : List Noted}
    (h : a.notes none t = x ++ y) :
    answers a.probe none x y ↔ a.Starts (x.map (·.1)).getLast? a.start (y.map (·.1)) := by
  have hy := notes_eq_append h
  rw [Option.or_none] at hy
  have hlast : (x.getLast?.or none).map (·.1) = (x.map (·.1)).getLast? := by
    rw [Option.or_none, List.getLast?_map]
  rw [answers, probe, hlast, ← contains_statesAt_notes hsourced, ← hy]
  split
  · rename_i hcontains
    exact ⟨fun _ => hcontains, fun _ => rfl⟩
  · rename_i hcontains
    exact ⟨fun hsome => absurd hsome Bool.false_ne_true, fun h => absurd h hcontains⟩

/-! ### The length of a match -/

/-- The first state of an automaton takes a character. -/
def Fills (a : Automaton) : Prop :=
  a.start ≠ 0 ∧ ∃ accepted next, a.states[a.start]? = some (.take accepted next)

theorem le_follow (q taken : Nat) (marks : Marks) (rest : List Noted) :
    taken ≤ (a.follow before q taken marks rest).1 := by
  induction rest generalizing before q taken marks with
  | nil =>
    rw [follow]
    split <;> exact Nat.le_refl taken
  | cons noted rest ih =>
    rw [follow]
    split
    · exact Nat.le_refl taken
    · exact Nat.le_of_succ_le (ih _ _ _)
    · exact Nat.le_refl taken

/-- A run from a state that takes a character takes one. -/
theorem Run.of_take {after : Option Char} {accepted : CharClass} {next : Nat} (hp : p ≠ 0)
    (hstate : a.states[p]? = some (.take accepted next)) (h : a.Run before p t after) :
    ∃ c rest, t = c :: rest ∧ accepted.contains c = true ∧ a.Run (some c) next rest after := by
  cases h with
  | accept => exact absurd rfl hp
  | @take _ _ _ q c rest htakes hleads hrest =>
    obtain ⟨-, state, hstate', hmem⟩ := hleads
    obtain rfl := Option.some.inj (hstate.symm.trans hstate')
    obtain rfl : q = next := List.mem_singleton.mp hmem
    refine ⟨c, rest, rfl, ?_, hrest⟩
    rwa [takes, hstate] at htakes
  | pass hpasses hleads hrest =>
    rw [passes, hstate] at hpasses
    cases hpasses

/-- A run from a fork goes one of its ways. -/
theorem Run.of_fork {after : Option Char} {preferred other : Nat} (hp : p ≠ 0)
    (hstate : a.states[p]? = some (.fork preferred other)) (h : a.Run before p t after) :
    a.Run before preferred t after ∨ a.Run before other t after := by
  cases h with
  | accept => exact absurd rfl hp
  | take htakes hleads hrest =>
    rw [takes, hstate] at htakes
    cases htakes
  | @pass _ _ _ q _ hpasses hleads hrest =>
    obtain ⟨-, state, hstate', hmem⟩ := hleads
    obtain rfl := Option.some.inj (hstate.symm.trans hstate')
    rcases List.mem_pair.mp hmem with rfl | rfl
    · exact .inl hrest
    · exact .inr hrest

/-- A run from the state that accepts takes nothing. -/
theorem Run.of_accept {after : Option Char} (hstate : a.states[0]? = some .accept)
    (h : a.Run before 0 t after) : t = [] := by
  cases h with
  | accept => rfl
  | take htakes hleads hrest =>
    rw [takes, hstate] at htakes
    cases htakes
  | pass hpasses hleads hrest =>
    rw [passes, hstate] at hpasses
    cases hpasses

/-- A run through an automaton without conditions on places does not depend on the neighbours. -/
theorem Run.of_neighbours {before' after after' : Option Char}
    (hlook : ∀ (q : Nat) (condition : Look) (next : Nat),
      a.states[q]? ≠ some (.look condition next))
    (h : a.Run before p t after) : a.Run before' p t after' := by
  induction h generalizing before' with
  | accept => exact .accept
  | take htakes hleads _ ih => exact .take htakes hleads ih
  | @pass before after q q' t hpasses hleads _ ih =>
    refine .pass ?_ hleads ih
    rw [passes] at hpasses ⊢
    split <;> simp_all

/-- A run from a state that takes a character takes one. -/
theorem Starts.of_take {accepted : CharClass} {next : Nat} (hp : p ≠ 0)
    (hstate : a.states[p]? = some (.take accepted next)) (h : a.Starts before p t) :
    ∃ c rest, t = c :: rest ∧ accepted.contains c = true ∧ a.Starts (some c) next rest := by
  obtain ⟨taken, rest, rfl, hrun⟩ := h
  obtain ⟨c, taken, rfl, haccepted, hrun⟩ := hrun.of_take hp hstate
  exact ⟨c, taken ++ rest, rfl, haccepted, taken, rest, rfl, hrun⟩

/-- A match from a place takes a character if the first state does. -/
theorem pos_follow (hsourced : a.Sourced) (hfills : a.Fills) (h : a.Starts before a.start t) :
    t ≠ [] ∧ 0 < (a.follow before a.start 0 [] (a.notes before t)).1 := by
  obtain ⟨hne, accepted, next, hstate⟩ := hfills
  have hhere := (contains_statesAt_notes hsourced).mpr h
  obtain ⟨c, rest, rfl, haccepted, hnext⟩ := h.of_take hne hstate
  have hahead := (contains_statesAt_notes hsourced).mpr hnext
  refine ⟨by simp, ?_⟩
  -- The first state takes a character at once, so that the first way goes on.
  have hway : ∀ here, here.contains a.start = true →
      a.firstWay before (some c) here (a.statesAt (some c) (a.notes (some c) rest)) 0
        (2 * a.states.size + 2) [(a.start, [])] .empty = some (.goes next []) := by
    intro here hcontains
    have hempty : StateSet.empty.contains a.start = false :=
      Bool.eq_false_iff.mpr (StateSet.not_contains_empty a.start)
    simp [firstWay, hempty, hcontains, hstate, haccepted, hahead]
  have hgoes := hway _ hhere
  rw [notes, statesAt] at hgoes
  rw [notes, follow, hgoes]
  exact le_follow _ _ _ _

end

end Automaton

/-! ### Patterns -/

/-- A pattern accepts the part `w` of a text, between `u` and `v`. -/
def Matches (pattern : Pattern) (u w v : Text) : Prop :=
  pattern.automaton.Run u.getLast? pattern.automaton.start w v.head?

theorem sourced_of_read {source : String} {pattern : Pattern} (h : read source = .ok pattern) :
    pattern.automaton.Sourced := by
  rw [read] at h
  cases hexpr : readExpr source.toList with
  | error fault =>
    rw [hexpr] at h
    cases h
  | ok result =>
    obtain ⟨expr, names⟩ := result
    rw [hexpr] at h
    simp only [bind, Except.bind, pure, Except.pure] at h
    split at h
    · cases h
      exact Automaton.sourced_ofExpr expr
    · cases h

section

variable {pattern : Pattern} {t : Text}

/-- The places where the probe of a pattern answers are those where a match starts. -/
theorem answers_sweep_iff (hsourced : pattern.automaton.Sourced) {x y : List Noted}
    (h : pattern.automaton.sweep t = x ++ y) :
    answers pattern.automaton.probe none x y ↔
      ∃ w v, y.map (·.1) = w ++ v ∧ pattern.Matches (x.map (·.1)) w v := by
  rw [Automaton.sweep_eq_notes] at h
  exact Automaton.answers_probe_iff hsourced h

theorem map_fst_sweep (pattern : Pattern) (t : Text) :
    (pattern.automaton.sweep t).map (·.1) = t := by
  rw [Automaton.sweep_eq_notes, Automaton.map_fst_notes]

/-- A part of a text that is accepted is one of the text with its notes. -/
theorem exists_answers_of_matches (hsourced : pattern.automaton.Sourced) {u w v : Text}
    (heq : t = u ++ (w ++ v)) (h : pattern.Matches u w v) :
    ∃ x y, pattern.automaton.sweep t = x ++ y ∧ x.length = u.length ∧
      answers pattern.automaton.probe none x y := by
  have hmap := (map_fst_sweep pattern t).trans heq
  obtain ⟨x, y, hsweep, hx, hy⟩ := List.map_eq_append_iff.mp hmap
  refine ⟨x, y, hsweep, by rw [← hx, List.length_map], ?_⟩
  rw [answers_sweep_iff hsourced hsweep]
  exact ⟨w, v, hy, hx ▸ h⟩

/-- Where the probe answers a part of the text is accepted. -/
theorem exists_matches_of_answers (hsourced : pattern.automaton.Sourced) {x y : List Noted}
    (hsweep : pattern.automaton.sweep t = x ++ y) (h : answers pattern.automaton.probe none x y) :
    ∃ u w v, t = u ++ (w ++ v) ∧ pattern.Matches u w v := by
  obtain ⟨w, v, hy, hmatches⟩ := (answers_sweep_iff hsourced hsweep).mp h
  refine ⟨x.map (·.1), w, v, ?_, hmatches⟩
  rw [← hy, ← List.map_append, ← hsweep, map_fst_sweep]

/-- A pattern matches a text that has a part it accepts. -/
theorem isMatch_iff (hsourced : pattern.automaton.Sourced) :
    pattern.isMatch t = true ↔ ∃ u w v, t = u ++ (w ++ v) ∧ pattern.Matches u w v := by
  rw [isMatch, find, Option.isSome_map]
  constructor
  · intro h
    obtain ⟨hit, hfind⟩ := Option.isSome_iff_exists.mp h
    obtain ⟨hsweep, ⟨n, hprobe, -⟩, -⟩ := findFrom_eq_some hfind
    exact exists_matches_of_answers hsourced hsweep (by rw [answers, hprobe]; rfl)
  · rintro ⟨u, w, v, heq, hmatches⟩
    obtain ⟨x, y, hsweep, -, hanswers⟩ := exists_answers_of_matches hsourced heq hmatches
    by_contra hnone
    exact findFrom_eq_none (Option.not_isSome_iff_eq_none.mp hnone) hsweep hanswers

theorem flat_hits (t : Text) : flat (pattern.hits t) = t := by
  rw [hits, flat_map, Text.flat_hits, map_fst_sweep]

theorem touches_of_sweep {x y : List Noted} {p : Nat × Marks}
    (hsweep : pattern.automaton.sweep t = x ++ y)
    (h : pattern.automaton.probe x.getLast? y = some p) :
    TouchesHit (pattern.hits t) x.length (y.take p.1).length := by
  obtain ⟨front, found, value, back, hparts, hle, hge⟩ := touches_of_probe hsweep h
  refine ⟨front.map (·.map (·.1)), found.map (·.1), value, back.map (·.map (·.1)), ?_, ?_, ?_⟩
  · rw [hits, hparts, List.map_append, List.map_cons]
    rfl
  · rwa [flat_map, List.length_map]
  · rwa [flat_map, List.length_map, List.length_map]

/-- Where a pattern accepts a part a hit lies. -/
theorem touches_of_matches (hsourced : pattern.automaton.Sourced) {u w v : Text}
    (heq : t = u ++ (w ++ v)) (h : pattern.Matches u w v) :
    TouchesHit (pattern.hits t) u.length 0 := by
  obtain ⟨x, y, hsweep, hlength, hanswers⟩ := exists_answers_of_matches hsourced heq h
  rw [answers, Option.or_none] at hanswers
  obtain ⟨p, hprobe⟩ := Option.isSome_iff_exists.mp hanswers
  rw [← hlength]
  exact (touches_of_sweep hsweep hprobe).weaken (by omega)

/-- A pattern that takes a character first accepts one where it accepts a part. -/
theorem touches_of_matches_of_fills (hsourced : pattern.automaton.Sourced)
    (hfills : pattern.automaton.Fills) {u w v : Text} (heq : t = u ++ (w ++ v))
    (h : pattern.Matches u w v) : TouchesHit (pattern.hits t) u.length 1 := by
  obtain ⟨x, y, hsweep, hlength, hanswers⟩ := exists_answers_of_matches hsourced heq h
  have hnotes := hsweep
  rw [Automaton.sweep_eq_notes] at hnotes
  have hstarts := (Automaton.answers_probe_iff hsourced hnotes).mp hanswers
  have hy := Automaton.notes_eq_append hnotes
  rw [Option.or_none] at hy
  obtain ⟨hne, hpos⟩ := Automaton.pos_follow hsourced hfills hstarts
  rw [answers, Option.or_none] at hanswers
  obtain ⟨p, hprobe⟩ := Option.isSome_iff_exists.mp hanswers
  -- The hit has the length that following the run gives, which is one at least.
  have hp : p = pattern.automaton.follow (x.map (·.1)).getLast? pattern.automaton.start 0 [] y := by
    rw [Automaton.probe, List.getLast?_map] at *
    split at hprobe
    · exact (Option.some.inj hprobe).symm
    · cases hprobe
  rw [← hlength]
  refine (touches_of_sweep hsweep hprobe).weaken ?_
  rw [← hy, ← hp] at hpos
  have hylen : 0 < y.length := by
    rw [← List.length_map (·.1)]
    exact List.length_pos_iff.mpr hne
  rw [List.length_take]
  omega

/-- A text with a hit has a part that the pattern accepts. -/
theorem exists_matches_of_hit (hsourced : pattern.automaton.Sourced)
    (h : (pattern.hits t).any Part.isHit = true) :
    ∃ u w v, t = u ++ (w ++ v) ∧ pattern.Matches u w v := by
  have hany : (Text.hits pattern.automaton.probe (pattern.automaton.sweep t)).any Part.isHit =
      true := by
    rw [hits, List.any_map] at h
    rw [← h]
    congr 1
    funext part
    cases part <;> rfl
  obtain ⟨x, y, hsweep, hanswers⟩ := exists_answers_of_hit hany
  exact exists_matches_of_answers hsourced hsweep hanswers

end

end DesignTokens.Pattern
