import DesignTokens.Proofs.Pattern.Run
import Mathlib.Logic.Relation

/-! # The match that is found

A match starts at the first place where some run of the automaton starts. From there it is followed
along states from which a match can be completed, at every fork on the way that comes first, so that
what is taken in the end is what a run takes.

## Main definitions

* `Pattern.Automaton.Ends` - the state with number zero is the one where a match ends
* `Pattern.Automaton.Slides` - states that lead to one another without taking a character
* `Pattern.Automaton.Barred` - states from which no way on is open

## Main results

* `Pattern.Automaton.firstWay_ne_none` - from where a run starts there is a way on
* `Pattern.Automaton.exists_run_follow` - what is taken in following a match is what a run takes
* `Pattern.leftmost_of_find` - the first match in a text
-/

namespace DesignTokens.Pattern

open Text

/-! ### Where a match ends -/

/-- The state with number zero is the one where a match ends. -/
def Draft.Ends (d : Draft) : Prop :=
  d.states[0]? = some .accept

namespace Draft.Ends

variable {d : Draft} {part : Draft → Draft}

theorem push (h : d.Ends) (state : State) : (d.push state).Ends := by
  rw [Draft.Ends, Draft.push, Array.getElem?_push, if_neg]
  · exact h
  · intro hsize
    rw [Draft.Ends, Array.getElem?_eq_none (by omega)] at h
    cases h

theorem times (hpart : ∀ d : Draft, d.Ends → (part d).Ends) (h : d.Ends) (n : Nat) :
    (n.repeat part d).Ends := by
  induction n with
  | zero => exact h
  | succ n ih => exact hpart _ ih

theorem loop (hpart : ∀ d : Draft, d.Ends → (part d).Ends) (h : d.Ends) (greedy : Bool) :
    Draft.Ends ⟨(d.loop part greedy).1.states, (d.loop part greedy).2⟩ ∧
      (d.loop part greedy).1.Ends := by
  -- The fork that ends a round is not the state with number zero.
  have hfork : d.states.size ≠ 0 := by
    intro hsize
    rw [Draft.Ends, Array.getElem?_eq_none (by omega)] at h
    cases h
  have hbody := hpart _ (h.push .accept)
  have hset : ∀ state, ((part (d.push .accept)).states.setIfInBounds d.states.size state)[0]? =
      some .accept := by
    intro state
    rw [Array.getElem?_setIfInBounds_ne hfork]
    exact hbody
  exact ⟨hset _, hset _⟩

theorem option (hpart : ∀ d : Draft, d.Ends → (part d).Ends) (h : d.Ends) (greedy : Bool)
    (exit : Nat) : (d.option part greedy exit).Ends :=
  (hpart d h).push _

theorem rounds (hpart : ∀ d : Draft, d.Ends → (part d).Ends) (h : d.Ends) (least : Nat)
    (most : Option Nat) (greedy fills : Bool) :
    (d.rounds part least most greedy fills).Ends := by
  cases most with
  | some most =>
    exact .times hpart (.times (fun d hd => hd.option hpart greedy _) h _) least
  | none =>
    obtain ⟨hentry, hloop⟩ := h.loop hpart greedy
    cases least with
    | zero =>
      rw [Draft.rounds]
      simp only
      split
      · exact hentry
      · exact hloop.push _
    | succ least => exact .times hpart hloop least

theorem build (e : Expr) (h : d.Ends) : (Draft.build e d).Ends := by
  induction e generalizing d with
  | empty => exact h
  | literal text =>
    rw [Draft.build]
    induction text with
    | nil => exact h
    | cons c text ih => exact ih.push _
  | one accepted => exact h.push _
  | look condition => exact h.push _
  | group index body ih => exact (ih (h.push _)).push _
  | seq a b iha ihb => exact iha (ihb h)
  | alt a b iha ihb => exact (iha (d := ⟨(Draft.build b d).states, d.entry⟩) (ihb h)).push _
  | rep least most greedy body ih => exact h.rounds (fun d hd => ih hd) _ _ _ _

end Draft.Ends

namespace Automaton

/-- The state with number zero is the one where a match ends. -/
def Ends (a : Automaton) : Prop :=
  a.states[0]? = some .accept

theorem ends_ofExpr (e : Expr) : (ofExpr e).Ends :=
  Draft.Ends.build e (d := ⟨#[.accept], 0⟩) rfl

section

variable {a : Automaton} {before after : Option Char} {p q : Nat} {c : Char} {t : Text}
  {here ahead passed : StateSet} {taken rounds : Nat} {marks : Marks} {todo : List (Nat × Marks)}

/-- A run starts from states only. -/
theorem lt_of_starts (hends : a.Ends) (h : a.Starts before p t) : p < a.states.size := by
  obtain ⟨taken, rest, rfl, hrun⟩ := h
  by_contra hle
  have hnone : a.states[p]? = none := Array.getElem?_eq_none (by omega)
  cases hrun with
  | accept => cases hnone.symm.trans hends
  | take htakes _ _ =>
    rw [takes, hnone] at htakes
    cases htakes
  | pass hpasses _ _ =>
    rw [passes, hnone] at hpasses
    cases hpasses

/-- A state that takes a character leads to one state only. -/
theorem exists_take_of_takes (htakes : a.takes c p = true) (hleads : a.Leads p q) :
    ∃ accepted, a.states[p]? = some (.take accepted q) ∧ accepted.contains c = true := by
  obtain ⟨-, state, hstate, htarget⟩ := hleads
  rw [takes, hstate] at htakes
  cases state with
  | take accepted next =>
    obtain rfl : q = next := List.mem_singleton.mp htarget
    exact ⟨accepted, hstate, htakes⟩
  | accept => cases htakes
  | look condition next => cases htakes
  | mark index starts next => cases htakes
  | fork preferred other => cases htakes

/-! ### Ways on without taking a character -/

/-- One state leads to another at a place without taking a character. -/
def Slides (a : Automaton) (before after : Option Char) : Nat → Nat → Prop :=
  Relation.ReflTransGen fun p q => a.passes before after p = true ∧ a.Leads p q

theorem Run.of_slides (hslides : a.Slides before (t.head?.or after) p q)
    (h : a.Run before q t after) : a.Run before p t after := by
  induction hslides using Relation.ReflTransGen.head_induction_on with
  | refl => exact h
  | head hstep _ ih => exact .pass hstep.1 hstep.2 ih

theorem lt_of_passes (h : a.passes before after p = true) : p < a.states.size := by
  by_contra hle
  rw [passes, Array.getElem?_eq_none (by omega)] at h
  cases h

theorem Slides.lt (h : a.Slides before after p q) (hq : q < a.states.size) : p < a.states.size := by
  rcases h.cases_head with rfl | ⟨_, hstep, -⟩
  · exact hq
  · exact lt_of_passes hstep.1

/-- The states that a state goes on to at a place without taking a character, the preferred one
first. -/
def onward (a : Automaton) (before after : Option Char) (q : Nat) : List Nat :=
  if a.passes before after q then (a.states[q]?.elim [] State.targets) else []

theorem mem_onward_iff : p ∈ a.onward before after q ↔
    a.passes before after q = true ∧ ∃ state, a.states[q]? = some state ∧ p ∈ state.targets := by
  rw [onward]
  cases a.states[q]? <;> simp

/-- Whether a way on is open in a state itself. -/
def OpensAt (a : Automaton) (after : Option Char) (ahead : StateSet) (q : Nat) : Way → Prop
  | .ends _ => a.states[q]? = some .accept
  | .goes next _ => ∃ accepted, a.states[q]? = some (.take accepted next) ∧
      after.any accepted.contains = true ∧ ahead.contains next = true

/-- One round of the search for a way on with a state not tried before: a way is open there, or the
search goes on with what the state leads to without taking a character. -/
theorem firstWay_cons_cases (rounds : Nat) (marks : Marks) (todo : List (Nat × Marks))
    (hhere : here.contains q = true) (hpassed : passed.contains q = false) :
    (∃ way, a.OpensAt after ahead q way ∧
      a.firstWay before after here ahead taken (rounds + 1) ((q, marks) :: todo) passed =
        some way) ∨
    (∀ way, ¬ a.OpensAt after ahead q way) ∧ ∃ more : List (Nat × Marks),
      more.map Prod.fst = a.onward before after q ∧ more.length ≤ 2 ∧
      a.firstWay before after here ahead taken (rounds + 1) ((q, marks) :: todo) passed =
        a.firstWay before after here ahead taken rounds (more ++ todo) (passed.insert q) := by
  have hshut : (∀ marks, ¬ a.OpensAt after ahead q (.ends marks)) →
      (∀ next marks, ¬ a.OpensAt after ahead q (.goes next marks)) →
        ∀ way, ¬ a.OpensAt after ahead q way := by
    intro hends hgoes way
    cases way with
    | ends marks => exact hends marks
    | goes next marks => exact hgoes next marks
  simp only [firstWay, hpassed, hhere, Bool.not_true, Bool.or_self, Bool.false_eq_true, if_false]
  -- One case for each kind of state: some open a way, others lead on or are stuck.
  cases hstate : a.states[q]? with
  | none =>
    refine .inr ⟨hshut ?_ ?_, [], ?_, ?_, rfl⟩ <;> simp [OpensAt, onward, passes, hstate]
  | some state =>
    cases state with
    | accept => exact .inl ⟨.ends marks, hstate, rfl⟩
    | take accepted next =>
      by_cases htakes : (after.any accepted.contains && ahead.contains next) = true
      · refine .inl ⟨.goes next marks, ⟨accepted, hstate, ?_⟩, by simp only [htakes, if_true]⟩
        simpa using htakes
      · refine .inr ⟨hshut ?_ ?_, [], ?_, ?_, by simp only [htakes]; rfl⟩
        · simp [OpensAt, hstate]
        · rintro next' marks' ⟨accepted', hstate', hopen⟩
          cases hstate.symm.trans hstate'
          exact htakes (by simpa using hopen)
        · simp [onward, passes, hstate]
        · simp
    | look condition next =>
      by_cases hholds : condition.holds before after = true
      · refine .inr ⟨hshut ?_ ?_, [(next, marks)], ?_, ?_, by simp only [hholds, if_true]; rfl⟩ <;>
          simp [OpensAt, onward, passes, hstate, hholds, State.targets]
      · refine .inr ⟨hshut ?_ ?_, [], ?_, ?_, by simp only [hholds]; rfl⟩ <;>
          simp [OpensAt, onward, passes, hstate, hholds]
    | mark index starts next =>
      refine .inr ⟨hshut ?_ ?_, [(next, ⟨index, starts, taken⟩ :: marks)], ?_, ?_, rfl⟩ <;>
        simp [OpensAt, onward, passes, hstate, State.targets]
    | fork preferred other =>
      refine .inr ⟨hshut ?_ ?_, [(preferred, marks), (other, marks)], ?_, ?_, rfl⟩ <;>
        simp [OpensAt, onward, passes, hstate, State.targets]

/-- A state that is left out of the search: it was tried before, or no match can be completed from
it. -/
theorem firstWay_cons_skip (rounds : Nat) (marks : Marks) (todo : List (Nat × Marks))
    (hskip : ¬ (here.contains q = true ∧ passed.contains q = false)) :
    a.firstWay before after here ahead taken (rounds + 1) ((q, marks) :: todo) passed =
      a.firstWay before after here ahead taken rounds todo passed := by
  have hcond : (passed.contains q || !here.contains q) = true := by
    cases hp : passed.contains q <;> cases hh : here.contains q <;> simp_all
  simp only [firstWay, hcond, if_true]

/-- A way that is found is open in a state that one of the states to try leads to. -/
theorem exists_slides_of_firstWay {way : Way}
    (hhere : ∀ q, here.contains q = true → q < a.states.size)
    (h : a.firstWay before after here ahead taken rounds todo passed = some way) :
    ∃ p ∈ todo.map Prod.fst, ∃ q, a.Slides before after p q ∧ here.contains q = true ∧
      a.OpensAt after ahead q way := by
  induction rounds generalizing todo passed with
  | zero => cases h
  | succ rounds ih =>
    cases todo with
    | nil => cases h
    | cons entry todo =>
      obtain ⟨q, marks⟩ := entry
      by_cases hskip : here.contains q = true ∧ passed.contains q = false
      · obtain ⟨hq, hpassed⟩ := hskip
        -- The state opens the way, or the search goes on with the states behind it in front of
        -- the others.
        rcases firstWay_cons_cases rounds marks todo hq hpassed with
          ⟨way', hopens, heq⟩ | ⟨-, more, hmore, -, heq⟩
        · cases h.symm.trans heq
          exact ⟨q, List.mem_cons_self, q, .refl, hq, hopens⟩
        · rw [heq] at h
          obtain ⟨p, hp, r, hslides, hr, hopens⟩ := ih h
          rw [List.map_append, hmore, List.mem_append] at hp
          rcases hp with hp | hp
          · obtain ⟨hpasses, state, hstate, htarget⟩ := mem_onward_iff.mp hp
            have hleads : a.Leads q p := ⟨hslides.lt (hhere r hr), state, hstate, htarget⟩
            exact ⟨q, List.mem_cons_self, r, .head ⟨hpasses, hleads⟩ hslides, hr, hopens⟩
          · exact ⟨p, List.mem_cons_of_mem q hp, r, hslides, hr, hopens⟩
      · rw [firstWay_cons_skip rounds marks todo hskip] at h
        obtain ⟨p, hp, rest⟩ := ih h
        exact ⟨p, List.mem_cons_of_mem q hp, rest⟩

/-! ### The search for a way on finds one -/

/-- No way on is open in the states of a set, and the states that they lead to without taking a
character are among them or still to try, unless no match can be completed from there. -/
def Barred (a : Automaton) (before after : Option Char) (here ahead passed : StateSet)
    (todo : List Nat) : Prop :=
  ∀ q, passed.contains q = true → (∀ way, ¬ a.OpensAt after ahead q way) ∧
    ∀ p ∈ a.onward before after q, here.contains p = true → passed.contains p = true ∨ p ∈ todo

/-- Twice the number of states not in a set: what they can add to the states to try. -/
def slack (a : Automaton) (passed : StateSet) : Nat :=
  ((List.range a.states.size).map fun q => if passed.contains q then 0 else 2).sum

theorem slack_insert (hq : q < a.states.size) (hpassed : passed.contains q = false) :
    a.slack (passed.insert q) + 2 = a.slack passed := by
  have hsum := sum_range_update a.states.size q
    (fun p => if passed.contains p then 0 else 2)
    (fun p => if (passed.insert q).contains p then 0 else 2)
    (by simp [StateSet.contains_insert])
    (by
      intro p hp
      simp [StateSet.contains_insert, hp])
  simpa [hq, hpassed, slack] using hsum

theorem slack_empty : a.slack .empty = 2 * a.states.size := by
  have hempty : ∀ q, StateSet.empty.contains q = false := fun q =>
    Bool.eq_false_iff.mpr (StateSet.not_contains_empty q)
  simp [slack, hempty, Nat.mul_comm]

/-- States stay barred when one more is tried in which no way is open, and what it leads to is still
to try. -/
theorem Barred.insert {more todo : List Nat}
    (h : a.Barred before after here ahead passed (q :: todo))
    (hshut : ∀ way, ¬ a.OpensAt after ahead q way) (hmore : more = a.onward before after q) :
    a.Barred before after here ahead (passed.insert q) (more ++ todo) := by
  intro p hp
  rcases (StateSet.contains_insert passed p q).mp hp with rfl | hp
  · exact ⟨hshut, fun r hr _ => .inr (List.mem_append_left todo (hmore ▸ hr))⟩
  · obtain ⟨hpshut, honward⟩ := h p hp
    exact ⟨hpshut, fun r hr hrhere =>
      StateSet.contains_or_mem_of_insert more (honward r hr hrhere)⟩

/-- States stay barred when one is left out that was tried or that counts for nothing. -/
theorem Barred.skip {todo : List Nat} (h : a.Barred before after here ahead passed (q :: todo))
    (hskip : here.contains q = true → passed.contains q = true) :
    a.Barred before after here ahead passed todo := by
  intro p hp
  obtain ⟨hpshut, honward⟩ := h p hp
  exact ⟨hpshut, fun r hr hrhere =>
    StateSet.contains_or_mem_of_done (fun heq => heq ▸ hskip (heq ▸ hrhere)) (honward r hr hrhere)⟩

/-- A search with rounds enough that finds no way on has tried states that bar each other. -/
theorem exists_barred_of_firstWay (hhere : ∀ q, here.contains q = true → q < a.states.size)
    (hrounds : todo.length + a.slack passed < rounds)
    (hbarred : a.Barred before after here ahead passed (todo.map Prod.fst))
    (h : a.firstWay before after here ahead taken rounds todo passed = none) :
    ∃ tried, a.Barred before after here ahead tried [] ∧
      ∀ q, here.contains q = true → passed.contains q = true ∨ q ∈ todo.map Prod.fst →
        tried.contains q = true := by
  induction rounds generalizing todo passed with
  | zero => omega
  | succ rounds ih =>
    cases todo with
    | nil => exact ⟨passed, hbarred, by simp⟩
    | cons entry todo =>
      obtain ⟨q, marks⟩ := entry
      rw [List.length_cons] at hrounds
      rw [List.map_cons] at hbarred ⊢
      by_cases hskip : here.contains q = true ∧ passed.contains q = false
      · obtain ⟨hq, hpassed⟩ := hskip
        rcases firstWay_cons_cases rounds marks todo hq hpassed with
          ⟨way', hopens, heq⟩ | ⟨hshut, more, hmore, hlength, heq⟩
        · rw [heq] at h
          cases h
        · rw [heq] at h
          -- The state adds two entries at most, and the slack is two less.
          have hslack := slack_insert (hhere q hq) hpassed
          have hrounds' : (more ++ todo).length + a.slack (passed.insert q) < rounds := by
            rw [List.length_append]
            omega
          have hbarred' := hbarred.insert hshut hmore
          rw [← List.map_append] at hbarred'
          obtain ⟨tried, htried, hall⟩ := ih hrounds' hbarred' h
          refine ⟨tried, htried, fun p hp hor => hall p hp ?_⟩
          rw [List.map_append]
          exact StateSet.contains_or_mem_of_insert _ hor
      · rw [firstWay_cons_skip rounds marks todo hskip] at h
        have hdone : here.contains q = true → passed.contains q = true := by
          simpa using hskip
        obtain ⟨tried, htried, hall⟩ := ih (by omega) (hbarred.skip hdone) h
        refine ⟨tried, htried, fun p hp hor => hall p hp ?_⟩
        exact StateSet.contains_or_mem_of_done (fun heq => heq ▸ hdone (heq ▸ hp)) hor

/-- From where a run starts there is a way on. -/
theorem firstWay_ne_none (taken : Nat) (marks : Marks) (hends : a.Ends)
    (hhere : ∀ q, here.contains q = true ↔ a.Starts before q t)
    (hahead : ∀ c rest, t = c :: rest → ∀ q, ahead.contains q = true ↔ a.Starts (some c) q rest)
    (hstarts : a.Starts before q t) :
    a.firstWay before t.head? here ahead taken (2 * a.states.size + 2) [(q, marks)] .empty ≠
      none := by
  intro hnone
  have hempty : ∀ {q : Nat} {P : Prop}, StateSet.empty.contains q = true → P := fun h =>
    absurd h (StateSet.not_contains_empty _)
  obtain ⟨tried, hbarred, hall⟩ := exists_barred_of_firstWay
    (fun p hp => lt_of_starts hends ((hhere p).mp hp))
    (by rw [slack_empty, List.length_singleton]; omega) (fun p hp => hempty hp) hnone
  -- No run starts from a state that was tried, as its first step would be a way on.
  refine (Starts.induction (P := fun b p u => a.Starts b p u ∧ (b = before → u = t →
    tried.contains p ≠ true)) ?_ ?_ ?_ hstarts).2 rfl rfl
      (hall q ((hhere q).mpr hstarts) (.inr List.mem_cons_self))
  · intro b u
    exact ⟨.accept, fun _ _ htried => (hbarred 0 htried).1 (.ends []) hends⟩
  · intro b p r c u htakes hleads hr
    refine ⟨hr.1.take htakes hleads, fun _ heq htried => ?_⟩
    obtain ⟨accepted, hstate, haccepts⟩ := exists_take_of_takes htakes hleads
    refine (hbarred p htried).1 (.goes r []) ⟨accepted, hstate, ?_, ?_⟩
    · rw [← heq]
      exact haccepts
    · exact (hahead c u heq.symm r).mpr hr.1
  · intro b p r u hpasses hleads hr
    refine ⟨hr.1.pass hpasses hleads, fun hb heq htried => ?_⟩
    subst hb heq
    have honward := mem_onward_iff.mpr ⟨hpasses, hleads.2⟩
    rcases (hbarred p htried).2 r honward ((hhere r).mpr hr.1) with hr' | hr'
    · exact hr.2 rfl rfl hr'
    · cases hr'

/-! ### What is taken -/

/-- A match ends in the state with number zero. -/
theorem eq_zero_of_accept (hstate : a.states[p]? = some .accept) (h : a.Starts before p t) :
    p = 0 := by
  obtain ⟨taken, rest, rfl, hrun⟩ := h
  cases hrun with
  | accept => rfl
  | take htakes _ _ =>
    rw [takes, hstate] at htakes
    cases htakes
  | pass hpasses _ _ =>
    rw [passes, hstate] at hpasses
    cases hpasses

/-- The first way on from where a run starts: a match ends there, or a character is taken and a run
starts behind it. -/
theorem exists_firstWay (taken : Nat) (marks : Marks) (ahead : StateSet) (hends : a.Ends)
    (hhere : ∀ q, here.contains q = true ↔ a.Starts before q t)
    (hahead : ∀ c rest, t = c :: rest → ∀ q, ahead.contains q = true ↔ a.Starts (some c) q rest)
    (hstarts : a.Starts before q t) :
    ∃ way, a.firstWay before t.head? here ahead taken (2 * a.states.size + 2) [(q, marks)] .empty =
        some way ∧
      ((∃ marks, way = .ends marks ∧ a.Slides before t.head? q 0) ∨
        ∃ next marks c rest p, way = .goes next marks ∧ t = c :: rest ∧
          a.Slides before t.head? q p ∧ a.takes c p = true ∧ a.Leads p next ∧
          a.Starts (some c) next rest) := by
  obtain ⟨way, hway⟩ :=
    Option.ne_none_iff_exists'.mp (firstWay_ne_none taken marks hends hhere hahead hstarts)
  refine ⟨way, hway, ?_⟩
  obtain ⟨p, hp, r, hslides, hr, hopens⟩ :=
    exists_slides_of_firstWay (fun p hp => lt_of_starts hends ((hhere p).mp hp)) hway
  obtain rfl : p = q := List.mem_singleton.mp hp
  -- The way ends the match here, or takes the next character, which then exists.
  cases way with
  | ends marks' =>
    obtain rfl := eq_zero_of_accept hopens ((hhere r).mp hr)
    exact .inl ⟨marks', rfl, hslides⟩
  | goes next marks' =>
    obtain ⟨accepted, hstate, haccepts, hnext⟩ := hopens
    cases t with
    | nil => cases haccepts
    | cons c rest =>
      have hbehind := (hahead c rest rfl next).mp hnext
      refine .inr ⟨next, marks', c, rest, r, rfl, rfl, hslides, ?_, ?_, hbehind⟩
      · rw [takes, hstate]
        exact haccepts
      · exact ⟨lt_of_starts hends hbehind, _, hstate, List.mem_singleton.mpr rfl⟩

/-- What is taken in following a match is what a run takes. -/
theorem exists_run_follow (taken : Nat) (marks : Marks) (hsourced : a.Sourced) (hends : a.Ends)
    (h : a.Starts before q t) :
    ∃ w v, t = w ++ v ∧ (a.follow before q taken marks (a.notes before t)).1 = taken + w.length ∧
      a.Run before q w v.head? := by
  induction t generalizing before q taken marks with
  | nil =>
    obtain ⟨way, hway, hcases⟩ := exists_firstWay taken marks .empty hends
      (fun p => contains_statesAt_notes hsourced) (by rintro c rest ⟨⟩) h
    rcases hcases with ⟨marks', rfl, hslides⟩ | ⟨_, _, _, _, _, -, hnil, -⟩
    · refine ⟨[], [], rfl, ?_, Run.of_slides hslides .accept⟩
      rw [notes, statesAt, List.head?_nil] at hway
      rw [notes, follow, hway]
      rfl
    · cases hnil
  | cons c t ih =>
    obtain ⟨way, hway, hcases⟩ := exists_firstWay taken marks
      (a.statesAt (some c) (a.notes (some c) t)) hends
      (fun p => contains_statesAt_notes hsourced)
      (by rintro _ _ ⟨⟩ q; exact contains_statesAt_notes hsourced) h
    rw [notes, statesAt] at hway
    -- The match ends here, or takes one more character and goes on behind it.
    rcases hcases with ⟨marks', rfl, hslides⟩ |
      ⟨next, marks', d, rest, p, rfl, heq, hslides, htakes, hleads, hbehind⟩
    · refine ⟨[], c :: t, rfl, ?_, Run.of_slides hslides .accept⟩
      rw [notes, follow, List.head?_cons] at *
      rw [hway]
      rfl
    · cases heq
      obtain ⟨w, v, rfl, hlength, hrun⟩ := ih (taken + 1) marks' hbehind
      refine ⟨c :: w, v, rfl, ?_, Run.of_slides hslides (.take htakes hleads hrun)⟩
      rw [notes, follow]
      rw [List.head?_cons] at hway
      rw [hway]
      simp only [hlength, List.length_cons]
      omega

end

end Automaton

/-! ### The first match -/

/-- A part `w` of a text, between `u` and `v`, that a pattern accepts, and no part that starts
earlier. -/
structure Leftmost (pattern : Pattern) (t u w v : Text) : Prop where
  text : t = u ++ (w ++ v)
  isMatch : pattern.Matches u w v
  first : ∀ u' w' v', t = u' ++ (w' ++ v') → pattern.Matches u' w' v' → u.length ≤ u'.length

theorem ends_of_read {source : String} {pattern : Pattern} (h : read source = .ok pattern) :
    pattern.automaton.Ends := by
  rw [read] at h
  cases hexpr : readExpr source.toList with
  | error fault =>
    rw [hexpr] at h
    cases h
  | ok result =>
    obtain ⟨expr, names⟩ := result
    rw [hexpr] at h
    simp only [bind, Except.bind, pure, Except.pure] at h
    split at h
    · cases h
      exact Automaton.ends_ofExpr expr
    · cases h

/-- The match that a pattern finds is one that it accepts, and none starts earlier. -/
theorem leftmost_of_find {pattern : Pattern} {t : Text} {hit : Hit Char Marks}
    (hsourced : pattern.automaton.Sourced) (hends : pattern.automaton.Ends)
    (h : pattern.find t = some hit) : pattern.Leftmost t hit.lead hit.found hit.rest := by
  obtain ⟨noted, hfind, rfl⟩ := Option.map_eq_some_iff.mp h
  obtain ⟨hsweep, ⟨n, hprobe, hfound⟩, hfirst⟩ := findFrom_eq_some hfind
  have hnotes := hsweep
  rw [Automaton.sweep_eq_notes] at hnotes
  have hanswers : answers pattern.automaton.probe none noted.lead (noted.found ++ noted.rest) := by
    rw [answers, hprobe]
    rfl
  have hstarts := (Automaton.answers_probe_iff hsourced hnotes).mp hanswers
  have hbehind := Automaton.notes_eq_append hnotes
  rw [Option.or_none] at hprobe hbehind
  obtain ⟨w, v, htext, hlength, hrun⟩ := Automaton.exists_run_follow 0 [] hsourced hends hstarts
  -- The number of characters that the probe accepts is the length of what the run takes.
  have hn : n = w.length := by
    rw [← hbehind, Nat.zero_add] at hlength
    rw [Automaton.probe, ← List.getLast?_map] at hprobe
    split at hprobe
    · rw [← hlength, Option.some.inj hprobe]
    · cases hprobe
  have hw : noted.found.map (·.1) = w := by
    rw [hfound, List.map_take, htext, hn, List.take_left]
  have hv : noted.rest.map (·.1) = v := by
    rw [List.map_append, hw] at htext
    exact List.append_cancel_left htext
  refine ⟨?_, ?_, ?_⟩
  · rw [← map_fst_sweep pattern t, hsweep, List.map_append, List.map_append]
    rfl
  · change pattern.Matches (noted.lead.map (·.1)) (noted.found.map (·.1)) (noted.rest.map (·.1))
    rw [hw, hv]
    exact hrun
  · intro u' w' v' heq hmatches
    obtain ⟨x, y, hx, hlen, hanswers'⟩ := exists_answers_of_matches hsourced heq hmatches
    by_contra hlt
    refine hfirst x y hx ?_ hanswers'
    rw [hlen]
    simpa [Hit.map] using hlt

end DesignTokens.Pattern
