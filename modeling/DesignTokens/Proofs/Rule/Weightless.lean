import DesignTokens.Proofs.Rule.Convergence
import DesignTokens.Proofs.Rule.FontWeight

/-! # Texts without weights

After the rules for font weights ran, no part of the text is a weight that one of them replaces:
what is put in place of a match shares no character with a weight, so a weight would lie in what was
kept, and there the rule would have found it.

## Main definitions

* `FontWeight.Weightless` - no part of a text is a weight
* `FontWeight.Apart` - whether a text shares no character with a weight that stands in one text
  with it
* `FontWeight.Replaces` - a rule that replaces weights by such a text

## Main results

* `FontWeight.apart_cons` - a test for texts that are apart
* `FontWeight.weightless_replaceParts` - replacing by texts that are apart makes no weight
* `FontWeight.weightless_applyRules` - after the rules ran, no weight of them is left
-/

namespace DesignTokens.FontWeight

open Pattern Text

/-- The first digits of the weights that are replaced. -/
def digits : List Char := ['4', '5', '6', '7']

/-- A weight with the first digit `digit`, as the pattern for it accepts. -/
def Weighs (digit : Char) (w : Text) : Prop :=
  (automaton digit).Run none 18 w none

/-- No part of a text is a weight with the first digit `digit`. -/
def Weightless (digit : Char) (t : Text) : Prop :=
  ∀ u w v, t = u ++ (w ++ v) → ¬ Weighs digit w

/-! ### The characters of a weight -/

/-- The characters of weights. -/
def mayWeigh (c : Char) : Bool :=
  key.contains c || blanks.contains c || quotes.contains c || (digits.contains c || c = '0')

section

variable {digit : Char} {w : Text}

/-- A weight is the name of the property and a number in quotes, and has no other characters. -/
theorem Weighs.chars (h : Weighs digit w) (hdigit : digit ∈ digits) :
    ∃ rest, w = 'f' :: rest ∧ 'f' ∉ rest ∧ ∀ c ∈ w, mayWeigh c = true := by
  obtain ⟨bs, q, q', rfl, hbs, hq, hq'⟩ := isWeight_of_run h
  refine ⟨key.tail ++ (bs ++ [q, digit, '0', '0', q']), rfl, ?_, ?_⟩
  · have hblank : blanks.contains 'f' = false := by decide
    have hquote : quotes.contains 'f' = false := by decide
    intro hmem
    simp only [List.mem_append, List.mem_cons, List.not_mem_nil, or_false] at hmem
    rcases hmem with hmem | hmem | rfl | rfl | hmem | hmem | rfl
    · exact absurd hmem (by decide)
    · rw [hbs _ hmem] at hblank
      cases hblank
    · rw [hq] at hquote
      cases hquote
    · exact absurd hdigit (by decide)
    · exact absurd hmem (by decide)
    · exact absurd hmem (by decide)
    · rw [hq'] at hquote
      cases hquote
  · intro c hc
    simp only [List.mem_append, List.mem_cons, List.not_mem_nil, or_false] at hc
    rcases hc with hc | hc | rfl | rfl | rfl | rfl | rfl
    · simp [mayWeigh, hc]
    · simp [mayWeigh, hbs c hc]
    · simp [mayWeigh, hq]
    · simp [mayWeigh, hdigit]
    · rfl
    · rfl
    · simp [mayWeigh, hq']

/-- A text without quotes has no weight. -/
theorem weightless_of_not_quotes {t : Text} (h : ∀ c ∈ t, quotes.contains c = false) :
    Weightless digit t := by
  intro u w v htext hw
  obtain ⟨bs, q, q', rfl, -, -, hq'⟩ := isWeight_of_run hw
  rw [h q' (by simp [htext])] at hq'
  cases hq'

/-- After the name of the property and a space stands a further blank or a quote. -/
theorem Weighs.not_prefix (h : Weighs digit w) {c : Char} (hc : mayWeigh c = false) (v : Text) :
    ¬ key ++ [' ', c] <+: w ++ v := by
  obtain ⟨bs, q, q', rfl, hbs, hq, -⟩ := isWeight_of_run h
  rw [List.append_assoc, List.prefix_append_right_inj]
  intro hprefix
  -- Behind the name stands a quote, or a blank and then a quote or another blank.
  cases bs with
  | nil =>
    obtain ⟨hspace, -⟩ := List.cons_prefix_cons.mp hprefix
    rw [← hspace] at hq
    exact absurd hq (by decide)
  | cons b bs =>
    obtain ⟨-, hprefix⟩ := List.cons_prefix_cons.mp hprefix
    cases bs with
    | nil =>
      obtain ⟨rfl, -⟩ := List.cons_prefix_cons.mp hprefix
      simp [mayWeigh, hq] at hc
    | cons b' bs =>
      obtain ⟨rfl, -⟩ := List.cons_prefix_cons.mp hprefix
      simp [mayWeigh, hbs c (by simp)] at hc

end

/-! ### Texts apart from weights -/

/-- A text shares no character with a weight where both stand in one text. -/
structure Apart (r : Text) : Prop where
  ne_nil : r ≠ []
  within : ∀ digit ∈ digits, ∀ w x y v, Weighs digit w → w = x ++ y → y ≠ [] → ¬ r <+: y ++ v
  after : ∀ digit ∈ digits, ∀ w x y v, Weighs digit w → r = x ++ y → x ≠ [] → y ≠ [] →
    ¬ y <+: w ++ v

/-- A text is apart that has the letter `f` at its start at most, and starts with a character that
is in no weight or with the name of the property and what cannot follow it. -/
theorem apart_cons {c : Char} {rest : Text} (hrest : 'f' ∉ rest)
    (hstart : mayWeigh c = false ∨ key ++ [' ', 'F'] <+: c :: rest) : Apart (c :: rest) := by
  refine ⟨by simp, ?_, ?_⟩
  · intro digit hdigit w x y v hw hxy hy hprefix
    obtain ⟨restw, hf, hrestw, hchars⟩ := hw.chars hdigit
    obtain ⟨d, y, rfl⟩ := List.exists_cons_of_ne_nil hy
    obtain ⟨rfl, -⟩ := List.cons_prefix_cons.mp hprefix
    rcases hstart with hc | hkey
    · rw [hchars c (by simp [hxy])] at hc
      cases hc
    · cases x with
      | nil =>
        rw [List.nil_append] at hxy
        rw [← hxy] at hprefix
        exact hw.not_prefix (by decide) v (hkey.trans hprefix)
      | cons e x =>
        -- The letter would stand further on in the weight.
        obtain ⟨rfl, -⟩ := List.cons_prefix_cons.mp hkey
        rw [hf, List.cons_append, List.cons.injEq] at hxy
        exact hrestw (by simp [hxy.2])
  · intro digit hdigit w x y v hw hxy hx hy hprefix
    obtain ⟨restw, rfl, -, -⟩ := hw.chars hdigit
    obtain ⟨d, y, rfl⟩ := List.exists_cons_of_ne_nil hy
    obtain ⟨e, x, rfl⟩ := List.exists_cons_of_ne_nil hx
    obtain ⟨rfl, -⟩ := List.cons_prefix_cons.mp hprefix
    rw [List.cons_append, List.cons.injEq] at hxy
    exact hrest (by simp [hxy.2])

/-! ### Replacing weights -/

/-- What the pattern of a weight accepts does not depend on what stands around it. -/
theorem weighs_of_run {digit : Char} {before after before' after' : Option Char} {w : Text}
    (h : (automaton digit).Run before 18 w after) : (automaton digit).Run before' 18 w after' := by
  refine h.of_neighbours fun q condition next hstate => ?_
  have hall : ∀ state ∈ (automaton digit).states.toList, state ≠ .look condition next := by
    simp [automaton]
  exact hall _ (Array.mem_toList_iff.mpr (Array.mem_of_getElem? hstate)) rfl

/-- The pattern of a weight has no match in a text without this weight. -/
theorem isMatch_eq_false {pattern : Pattern} {digit : Char} {t : Text}
    (hsourced : pattern.automaton.Sourced) (heq : pattern.automaton = automaton digit)
    (hfree : Weightless digit t) : pattern.isMatch t = false := by
  rw [Bool.eq_false_iff]
  intro hmatch
  obtain ⟨u, w, v, htext, hmatches⟩ := (Pattern.isMatch_iff hsourced).mp hmatch
  rw [Pattern.Matches, heq] at hmatches
  exact hfree u w v htext (weighs_of_run hmatches)

section

variable {α : Type} {replace : Text → α → Text} {parts : List (Part Char α)} {digit : Char}

/-- Replacing hits by texts that are apart makes no weight. -/
theorem weightless_replaceParts (hdigit : digit ∈ digits)
    (hapart : ∀ t value, .hit t value ∈ parts → Apart (replace t value))
    (hold : ∀ u w v, flat parts = u ++ (w ++ v) → Weighs digit w → TouchesHit parts u.length 1) :
    Weightless digit (replaceParts replace parts) := by
  intro u w v htext hw
  obtain ⟨restw, hf, -, -⟩ := hw.chars hdigit
  rcases overlaps_or_stays (fun t value hmem => (hapart t value hmem).ne_nil) (by simp [hf])
    htext with
    ⟨t, value, x, y, hmem, hxy, hy, hprefix⟩ | ⟨t, value, x, y, hmem, hxy, hx, -, hy, hprefix⟩ |
      ⟨u', v', hflat, hhit, -⟩
  · exact (hapart t value hmem).within digit hdigit w x y v hw hxy hy hprefix
  · exact (hapart t value hmem).after digit hdigit w x y v hw hxy hx hy hprefix
  · exact hhit (hold u' w v' hflat hw)

end

/-- A rule that replaces weights with the first digit `digit` by a text that is apart from weights.
-/
structure Replaces (rule : Rule) (digit : Char) : Prop where
  mem_digits : digit ∈ digits
  replaces : rule.isReplacing = true
  sourced : rule.pattern.automaton.Sourced
  automaton_eq : rule.pattern.automaton = automaton digit
  apart : ∀ found marks, Apart (rule.put found marks)

section

variable {rule : Rule} {rules : List Rule} {digit d : Char} {t : Text}

/-- A rule leaves none of its weights. -/
theorem Replaces.weightless (h : Replaces rule digit) (t : Text) :
    Weightless digit ((rule.replace? t).getD t) := by
  rw [Rule.getD_replace? h.replaces]
  refine weightless_replaceParts h.mem_digits (fun _ _ _ => h.apart _ _) fun u w v hflat hw => ?_
  have hfills : rule.pattern.automaton.Fills := by
    rw [h.automaton_eq]
    exact ⟨by simp [FontWeight.automaton], _, _, rfl⟩
  rw [Pattern.flat_hits] at hflat
  refine Pattern.touches_of_matches_of_fills h.sourced hfills hflat ?_
  rw [Pattern.Matches, h.automaton_eq]
  exact weighs_of_run hw

/-- A rule makes no weights. -/
theorem Replaces.keeps (h : Replaces rule digit) (hd : d ∈ digits) (hfree : Weightless d t) :
    Weightless d ((rule.replace? t).getD t) := by
  rw [Rule.getD_replace? h.replaces]
  refine weightless_replaceParts hd (fun _ _ _ => h.apart _ _) fun u w v hflat hw => ?_
  rw [Pattern.flat_hits] at hflat
  exact absurd hw (hfree u w v hflat)

/-- A rule does not match a text without its weights. -/
theorem Replaces.replace?_eq_none (h : Replaces rule digit) (hfree : Weightless digit t) :
    rule.replace? t = none := by
  rw [Rule.replace?_eq_none_iff h.replaces h.sourced]
  intro u w v htext hmatches
  rw [Pattern.Matches, h.automaton_eq] at hmatches
  exact hfree u w v htext (weighs_of_run hmatches)

theorem applyRules_cons_fst : (Fix.applyRules (rule :: rules) t).1 =
    (Fix.applyRules rules ((rule.replace? t).getD t)).1 := by
  cases hreplace : rule.replace? t with
  | none => rw [Fix.applyRules_cons_none hreplace, Option.getD_none]
  | some next => rw [Fix.applyRules_cons_some hreplace, Option.getD_some]

/-- Rules for weights make none. -/
theorem weightless_applyRules_of (h : ∀ rule ∈ rules, ∃ digit, Replaces rule digit)
    (hd : d ∈ digits) (hfree : Weightless d t) : Weightless d (Fix.applyRules rules t).1 := by
  induction rules generalizing t with
  | nil => exact hfree
  | cons rule rules ih =>
    obtain ⟨digit, hrule⟩ := h rule List.mem_cons_self
    rw [applyRules_cons_fst]
    exact ih (fun r hr => h r (List.mem_cons_of_mem rule hr)) (hrule.keeps hd hfree)

/-- After rules for weights ran, no weight of them is left. -/
theorem weightless_applyRules (h : ∀ rule ∈ rules, ∃ digit, Replaces rule digit)
    (hmem : rule ∈ rules) (hrule : Replaces rule digit) :
    Weightless digit (Fix.applyRules rules t).1 := by
  induction rules generalizing t with
  | nil => cases hmem
  | cons first rules ih =>
    have hrules := fun r hr => h r (List.mem_cons_of_mem first hr)
    rw [applyRules_cons_fst]
    rcases List.mem_cons.mp hmem with rfl | hmem
    · exact weightless_applyRules_of hrules hrule.mem_digits (hrule.weightless t)
    · exact ih hrules hmem

end

end DesignTokens.FontWeight
