import DesignTokens.Fix
import DesignTokens.Proofs.Pattern.Run
import DesignTokens.Proofs.Rule.Compilation
import DesignTokens.Proofs.Text.Seams

/-! # Convergence of rules

Rules are accepted if none of them matches what it, or a later one, puts in place of a match. This
does not settle what becomes of a text: a replacement can complete a match with what stands beside
it. It settles all but that. After the rules ran, every match of one of them touches a seam, so that
they do nothing further if and only if no match touches a seam.

## Main definitions

* `Rule.put` - what a rule puts in place of a match
* `Rule.Sewn` - a text with its seams
* `Rule.Sewn.Clean` - every match of given rules touches a seam

## Main results

* `Rule.Sewn.Clean.sew` - a rule that the check accepts keeps a text clean
* `Rule.clean_sewAll` - the text after all rules is clean
* `RuleSet.converge_of_compile` - rules that were checked converge
-/

namespace DesignTokens

open Text

/-! ### Literal replacements -/

namespace Pattern.Template

theorem readFrom_zero_of_literal {t : Text} (h : '$' ∉ t) : readFrom 0 t = t.map .literal := by
  induction t with
  | nil => rfl
  | cons c t ih =>
    obtain ⟨hc, ht⟩ : ¬ '$' = c ∧ '$' ∉ t := by simpa using h
    have hne : (c != '$') = true := bne_iff_ne.mpr (Ne.symm hc)
    rw [readFrom.eq_def]
    simp only [hne, if_true, ih ht, List.map_cons]

/-- A replacement without a dollar sign stands for itself. -/
theorem expand_read_of_literal {t : Text} (h : '$' ∉ t) (names : List (String × Nat)) (found : Text)
    (marks : Marks) : (read t).expand names found marks = t := by
  rw [read, readFrom_zero_of_literal h, expand, List.flatMap_map]
  exact List.flatMap_singleton' t

end Pattern.Template

namespace Rule

/-- What a rule puts in place of a match. -/
def put (rule : Rule) : Text → Pattern.Marks → Text :=
  (Pattern.Template.read (rule.replacement.getD "").toList).expand rule.pattern.names

/-- A rule that replaces its matches by one and the same text. -/
structure Literal (rule : Rule) (replacement : Text) : Prop where
  sourced : rule.pattern.automaton.Sourced
  replaces : rule.isReplacing = true
  put_eq : ∀ found marks, rule.put found marks = replacement

section

variable {rule : Rule} {t : Text}

theorem exists_replacement (h : rule.isReplacing = true) : ∃ r, rule.replacement = some r := by
  rw [isReplacing, Bool.and_eq_true] at h
  exact Option.isSome_iff_exists.mp h.2

theorem replace?_eq (h : rule.isReplacing = true) :
    rule.replace? t = replaceHits rule.put (rule.pattern.hits t) := by
  obtain ⟨r, hr⟩ := exists_replacement h
  rw [replace?, hr, Option.bind_some, Pattern.replaceAll, put, hr, Option.getD_some]

/-- The text after a rule, whether it matches or not. -/
theorem getD_replace? (h : rule.isReplacing = true) :
    (rule.replace? t).getD t = replaceParts rule.put (rule.pattern.hits t) := by
  rw [replace?_eq h, replaceHits]
  split
  · rfl
  · rename_i hhit
    rw [replaceParts_of_not_hit (Bool.not_eq_true _ ▸ hhit), Pattern.flat_hits, Option.getD_none]

/-- A rule leaves a text alone that has no part its pattern accepts. -/
theorem replace?_eq_none_iff (h : rule.isReplacing = true)
    (hsourced : rule.pattern.automaton.Sourced) :
    rule.replace? t = none ↔ ∀ u w v, t = u ++ (w ++ v) → ¬ rule.pattern.Matches u w v := by
  rw [replace?_eq h, replaceHits]
  constructor
  · intro hnone u w v heq hmatches
    obtain ⟨front, found, marks, back, hparts, -⟩ := Pattern.touches_of_matches hsourced heq
      hmatches
    simp [hparts, Part.isHit] at hnone
  · intro hmatches
    rw [if_neg]
    intro hhit
    obtain ⟨u, w, v, heq, hmatch⟩ := Pattern.exists_matches_of_hit hsourced hhit
    exact hmatches u w v heq hmatch

end

/-! ### Texts with seams -/

/-- A text with its seams. -/
structure Sewn where
  text : Text
  seams : List Nat
  deriving Repr, DecidableEq

/-- The text after a rule, with its seams. -/
def sew (rule : Rule) (s : Sewn) : Sewn :=
  ⟨replaceParts rule.put (rule.pattern.hits s.text),
    seams rule.put s.seams (rule.pattern.hits s.text)⟩

/-- The text after several rules in order, with its seams. -/
def sewAll (rules : List Rule) (t : Text) : Sewn :=
  rules.foldl (fun s rule => rule.sew s) ⟨t, []⟩

namespace Sewn

/-- Every match of given rules touches a seam. -/
def Clean (s : Sewn) (rules : List Rule) : Prop :=
  ∀ rule ∈ rules, ∀ u w v, s.text = u ++ (w ++ v) → rule.pattern.Matches u w v →
    Touches s.seams u w

/-- No match of given rules touches a seam. -/
def Smooth (s : Sewn) (rules : List Rule) : Prop :=
  ∀ rule ∈ rules, ∀ u w v, s.text = u ++ (w ++ v) → rule.pattern.Matches u w v →
    ¬ Touches s.seams u w

/-- A rule keeps a text clean, and makes it clean of its own matches, if none of the patterns
matches what it puts in place of a match. -/
theorem Clean.sew {s : Sewn} {done : List Rule} {rule : Rule} {r : Text} (h : s.Clean done)
    (hrule : rule.Literal r)
    (hsourced : ∀ d ∈ done, d.pattern.automaton.Sourced)
    (hdone : ∀ d ∈ done, d.pattern.isMatch r = false) (hown : rule.pattern.isMatch r = false) :
    (rule.sew s).Clean (rule :: done) := by
  intro d hd u w v htext hmatches
  by_contra htouches
  have hd' : d.pattern.automaton.Sourced ∧ d.pattern.isMatch r = false := by
    rcases List.mem_cons.mp hd with rfl | hd
    · exact ⟨hrule.sourced, hown⟩
    · exact ⟨hsourced d hd, hdone d hd⟩
  rcases replaceParts_eq_append htext htouches with ⟨hinserted, -⟩ | hkept
  · -- Within a replacement the pattern would match the replacement by itself.
    obtain ⟨found, marks, x, y, -, hput, hx, hy⟩ := hinserted
    rw [hrule.put_eq] at hput
    have hmatch : d.pattern.isMatch r = true := by
      rw [Pattern.isMatch_iff hd'.1]
      refine ⟨x, w, y, hput, ?_⟩
      rw [Pattern.Matches, hx, hy]
      exact hmatches
    rw [hd'.2] at hmatch
    cases hmatch
  · -- Elsewhere it would match the old text, away from the hits and the seams.
    obtain ⟨u', v', hflat, hbefore, hafter, hhit, hold⟩ := hkept
    rw [Pattern.flat_hits] at hflat
    have hmatch : d.pattern.Matches u' w v' := by
      rw [Pattern.Matches, hbefore, hafter]
      exact hmatches
    rcases List.mem_cons.mp hd with rfl | hd
    · exact hhit (Pattern.touches_of_matches hd'.1 hflat hmatch)
    · exact hold (h d hd u' w v' hflat hmatch)

end Sewn

/-- No rule of several matches what it or a later one puts in place of a match. -/
structure Converge (rules : List Rule) (literal : Rule → Text) : Prop where
  literals : ∀ rule ∈ rules, rule.Literal (literal rule)
  own : ∀ rule ∈ rules, rule.pattern.isMatch (literal rule) = false
  later : rules.Pairwise fun earlier rule => earlier.pattern.isMatch (literal rule) = false

theorem clean_foldl {done rules : List Rule} {literal : Rule → Text} {s : Sewn}
    (h : s.Clean done) (hrules : Converge rules literal)
    (hsourced : ∀ d ∈ done, d.pattern.automaton.Sourced)
    (hdone : ∀ d ∈ done, ∀ rule ∈ rules, d.pattern.isMatch (literal rule) = false) :
    (rules.foldl (fun s rule => rule.sew s) s).Clean (rules ++ done) := by
  induction rules generalizing done s with
  | nil => exact h
  | cons rule rules ih =>
    obtain ⟨hfirst, hlater⟩ := List.pairwise_cons.mp hrules.later
    have hliteral := hrules.literals rule List.mem_cons_self
    have hsewn : (rule.sew s).Clean (rule :: done) :=
      h.sew hliteral hsourced (fun d hd => hdone d hd rule List.mem_cons_self)
        (hrules.own rule List.mem_cons_self)
    -- The rule that was just applied is one of those done for the rules that follow.
    have hnext := ih hsewn ⟨fun r hr => hrules.literals r (List.mem_cons_of_mem rule hr),
      fun r hr => hrules.own r (List.mem_cons_of_mem rule hr), hlater⟩ ?_ ?_
    · intro r hr
      refine hnext r ?_
      rcases List.mem_cons.mp hr with rfl | hr
      · exact List.mem_append_right _ List.mem_cons_self
      · rcases List.mem_append.mp hr with hr | hr
        · exact List.mem_append_left _ hr
        · exact List.mem_append_right _ (List.mem_cons_of_mem rule hr)
    · intro d hd
      rcases List.mem_cons.mp hd with rfl | hd
      · exact hliteral.sourced
      · exact hsourced d hd
    · intro d hd r hr
      rcases List.mem_cons.mp hd with rfl | hd
      · exact hfirst r hr
      · exact hdone d hd r (List.mem_cons_of_mem rule hr)

/-- The text after rules that converge is clean. -/
theorem clean_sewAll {rules : List Rule} {literal : Rule → Text} (h : Converge rules literal)
    (t : Text) : (sewAll rules t).Clean rules := by
  have hstart : (⟨t, []⟩ : Sewn).Clean [] := by
    simp [Sewn.Clean]
  have hclean := clean_foldl hstart h (by simp) (by simp)
  rwa [List.append_nil] at hclean

end Rule

/-! ### Rules that were checked -/

namespace RuleSet

/-- A rule does not match the literal replacement of another. -/
def Passes (earlier rule : Rule) : Prop :=
  ∀ r, rule.literalReplacement? = some r → earlier.pattern.isMatch r.toList = false

theorem checkConvergence_cons {earlier rules : List Rule} {rule : Rule}
    (h : checkConvergence earlier (rule :: rules) = .ok ()) :
    (∀ d ∈ earlier ++ [rule], Passes d rule) ∧
      checkConvergence (earlier ++ [rule]) rules = .ok () := by
  rw [checkConvergence] at h
  cases hliteral : rule.literalReplacement? with
  | none =>
    rw [hliteral] at h
    exact ⟨fun d _ r hr => by simp [hliteral] at hr, h⟩
  | some r =>
    cases hfind : (earlier ++ [rule]).find? (·.pattern.isMatch r.toList) with
    | some found =>
      simp only [hliteral, hfind] at h
      cases h
    | none =>
      simp only [hliteral, hfind] at h
      refine ⟨fun d hd r' hr' => ?_, h⟩
      obtain rfl : r = r' := Option.some.inj (hliteral.symm.trans hr')
      simpa using List.find?_eq_none.mp hfind d hd

/-- The check goes over every pair of rules. -/
theorem passes_of_checkConvergence {earlier rules : List Rule}
    (h : checkConvergence earlier rules = .ok ()) :
    (∀ rule ∈ rules, Passes rule rule ∧ ∀ d ∈ earlier, Passes d rule) ∧ rules.Pairwise Passes := by
  induction rules generalizing earlier with
  | nil => exact ⟨by simp, .nil⟩
  | cons rule rules ih =>
    obtain ⟨hrule, hrest⟩ := checkConvergence_cons h
    obtain ⟨hrules, hpairs⟩ := ih hrest
    refine ⟨?_, List.pairwise_cons.mpr ⟨?_, hpairs⟩⟩
    · intro r hr
      rcases List.mem_cons.mp hr with rfl | hr
      · exact ⟨hrule r (by simp), fun d hd => hrule d (List.mem_append_left _ hd)⟩
      · exact ⟨(hrules r hr).1, fun d hd => (hrules r hr).2 d (List.mem_append_left _ hd)⟩
    · exact fun r hr => (hrules r hr).2 rule (by simp)

/-- The replacing rules for an extension converge, if they were checked and none of them refers to
groups. -/
theorem converge_of_compile {entries : List Config.RuleEntry} {rules : List Rule}
    (hcompile : compile entries = .ok rules)
    (hliteral : ∀ entry ∈ entries, ∀ r, entry.replacement = some r → '$' ∉ r.toList)
    (extension : String) :
    Rule.Converge ((rules.filter (·.isFor extension)).filter Rule.isReplacing)
      fun rule => (rule.replacement.getD "").toList := by
  obtain ⟨rules', hfrom, h⟩ := bind_eq_ok.mp hcompile
  obtain ⟨_, hcheck, h⟩ := bind_eq_ok.mp h
  cases h
  obtain ⟨hown, hlater⟩ := passes_of_checkConvergence hcheck
  -- A replacement without a sign for groups is put in as it stands.
  have hreplacement : ∀ rule ∈ rules, rule.isReplacing = true → ∃ r : String,
      rule.replacement = some r ∧ '$' ∉ r.toList ∧ rule.literalReplacement? = some r := by
    intro rule hrule hreplacing
    obtain ⟨entry, hentry, hmade⟩ := madeFrom_of_compileFrom hfrom rule hrule
    obtain ⟨r, hr⟩ := Rule.exists_replacement hreplacing
    have hr' : '$' ∉ r.toList := hliteral entry hentry r (hmade.replacement.symm.trans hr)
    exact ⟨r, hr, hr', by simp [Rule.literalReplacement?, hr, hr']⟩
  have hmem : ∀ rule ∈ (rules.filter (·.isFor extension)).filter Rule.isReplacing,
      rule ∈ rules ∧ rule.isReplacing = true := by
    intro rule hrule
    rw [List.mem_filter, List.mem_filter] at hrule
    exact ⟨hrule.1.1, hrule.2⟩
  refine ⟨?_, ?_, ?_⟩
  · intro rule hrule
    obtain ⟨hrule, hreplacing⟩ := hmem rule hrule
    obtain ⟨entry, hentry, hmade⟩ := madeFrom_of_compileFrom hfrom rule hrule
    obtain ⟨r, hr, hdollar, -⟩ := hreplacement rule hrule hreplacing
    refine ⟨Pattern.sourced_of_read hmade.pattern, hreplacing, fun found marks => ?_⟩
    rw [Rule.put, hr]
    exact Pattern.Template.expand_read_of_literal hdollar _ _ _
  · intro rule hrule
    obtain ⟨hrule, hreplacing⟩ := hmem rule hrule
    obtain ⟨r, hr, -, hr'⟩ := hreplacement rule hrule hreplacing
    rw [hr]
    exact (hown rule (List.mem_filter.mpr ⟨hrule, hreplacing⟩)).1 r hr'
  · rw [List.filter_comm]
    refine (hlater.sublist List.filter_sublist).imp_of_mem ?_
    intro earlier rule _ hrule hpasses
    obtain ⟨hrule, hreplacing⟩ := List.mem_filter.mp (List.mem_filter.mp hrule).1
    obtain ⟨r, hr, -, hr'⟩ := hreplacement rule hrule hreplacing
    rw [hr]
    exact hpasses r hr'

end RuleSet

/-! ### Fixing again -/

namespace Fix

section

variable {rules : List Rule} {rule : Rule} {t : Text}

/-- Applies one rule, to a text and the rules that matched so far. -/
def applyRule (state : Text × List Rule) (rule : Rule) : Text × List Rule :=
  match rule.replace? state.1 with
  | some t => (t, state.2 ++ [rule])
  | none => state

theorem applyRules_eq_foldl (rules : List Rule) (t : Text) :
    applyRules rules t = rules.foldl applyRule (t, []) := rfl

theorem applyRule_none {fired : List Rule} (h : rule.replace? t = none) :
    applyRule (t, fired) rule = (t, fired) := by
  simp [applyRule, h]

theorem applyRule_some {next : Text} {fired : List Rule} (h : rule.replace? t = some next) :
    applyRule (t, fired) rule = (next, fired ++ [rule]) := by
  simp [applyRule, h]

theorem foldl_applyRule (rules : List Rule) (t : Text) (fired : List Rule) :
    rules.foldl applyRule (t, fired) =
      ((applyRules rules t).1, fired ++ (applyRules rules t).2) := by
  induction rules generalizing t fired with
  | nil => simp [applyRules]
  | cons rule rules ih =>
    rw [applyRules_eq_foldl, List.foldl_cons, List.foldl_cons]
    cases hreplace : rule.replace? t with
    | none => rw [applyRule_none hreplace, applyRule_none hreplace, ih, ih t []]; rfl
    | some next =>
      rw [applyRule_some hreplace, applyRule_some hreplace, ih, ih next ([] ++ [rule]),
        List.append_assoc]
      rfl

theorem applyRules_cons_none (h : rule.replace? t = none) :
    applyRules (rule :: rules) t = applyRules rules t := by
  rw [applyRules_eq_foldl, List.foldl_cons, applyRule_none h, applyRules_eq_foldl]

theorem applyRules_cons_some {next : Text} (h : rule.replace? t = some next) :
    applyRules (rule :: rules) t =
      ((applyRules rules next).1, rule :: (applyRules rules next).2) := by
  rw [applyRules_eq_foldl, List.foldl_cons, applyRule_some h]
  exact foldl_applyRule rules next [rule]

theorem applyRules_fst (h : ∀ rule ∈ rules, rule.isReplacing = true) (t : Text) :
    (applyRules rules t).1 = (Rule.sewAll rules t).text := by
  have hfold : ∀ seams, (applyRules rules t).1 =
      (rules.foldl (fun s rule => rule.sew s) (⟨t, seams⟩ : Rule.Sewn)).text := by
    induction rules generalizing t with
    | nil => exact fun _ => rfl
    | cons rule rules ih =>
      intro seams
      have hrule := Rule.getD_replace? (t := t) (h rule List.mem_cons_self)
      have hrules := fun r hr => h r (List.mem_cons_of_mem rule hr)
      rw [List.foldl_cons, Rule.sew, ← hrule]
      cases hreplace : rule.replace? t with
      | none => rw [applyRules_cons_none hreplace, Option.getD_none, ih hrules]
      | some next => rw [applyRules_cons_some hreplace, Option.getD_some, ih hrules]
  exact hfold []

/-- Rules do nothing further if none of them matches. -/
theorem applyRules_eq_iff :
    applyRules rules t = (t, []) ↔ ∀ rule ∈ rules, rule.replace? t = none := by
  induction rules with
  | nil => simp [applyRules]
  | cons rule rules ih =>
    rw [List.forall_mem_cons]
    cases hreplace : rule.replace? t with
    | none => rw [applyRules_cons_none hreplace, ih]; simp
    | some next =>
      rw [applyRules_cons_some hreplace]
      simp

end

end Fix

end DesignTokens
