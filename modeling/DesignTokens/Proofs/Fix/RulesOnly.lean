import DesignTokens.Proofs.Rule.Convergence

/-! # Rules by themselves

Without canonical spellings and imports, fixing a text is running the rules for its file. Rules that
were checked do nothing further to a text they ran on, if and only if no match touches a seam. That
is less than the check is meant to give: where a match is removed from within another, what stands
on both sides of it joins to a further match, and the seam lies in that.

## Main results

* `Fix.file_of_rules_only` - fixing with rules alone
* `Fix.again_iff` - when rules that were checked do nothing further
* `Fix.not_settled_of_compile` - the check does not settle texts
-/

namespace DesignTokens

theorem CanonicalNames.apply_of_names_eq_nil {table : CanonicalNames} (h : table.names = [])
    (t : Text) : table.apply t = t := by
  have hprobe : ∀ before t, CanonicalNames.probe [] before t = none := by
    intro before t
    simp [CanonicalNames.probe, CanonicalNames.byLength]
  have hfind : ∀ before t, Text.findFrom (CanonicalNames.probe []) before t = none := by
    intro before t
    induction t generalizing before with
    | nil => rw [Text.findFrom, hprobe]
    | cons c t ih => rw [Text.findFrom, hprobe, ih]; rfl
  rw [apply, replace?, h, Text.replaceAll, Text.hits, Text.hitsFrom_succ, hfind]
  rfl

namespace Fix

open Text

/-- The replacing rules of several that are for an extension. -/
def replacing (rules : List Rule) (extension : String) : List Rule :=
  (rules.filter (·.isFor extension)).filter Rule.isReplacing

theorem isReplacing_of_mem_replacing {rules : List Rule} {extension : String} :
    ∀ rule ∈ replacing rules extension, rule.isReplacing = true :=
  fun _ h => (List.mem_filter.mp h).2

/-- Rules that were checked do nothing further to a text they ran on if and only if no match touches
a seam. -/
theorem applyRules_again_iff {entries : List Config.RuleEntry} {rules : List Rule}
    (hcompile : RuleSet.compile entries = .ok rules)
    (hliteral : ∀ entry ∈ entries, ∀ r, entry.replacement = some r → '$' ∉ r.toList)
    (extension : String) (t : Text) :
    applyRules (replacing rules extension) (applyRules (replacing rules extension) t).1 =
        ((applyRules (replacing rules extension) t).1, []) ↔
      (Rule.sewAll (replacing rules extension) t).Smooth (replacing rules extension) := by
  have hconverge := RuleSet.converge_of_compile hcompile hliteral extension
  -- A rule that finds nothing replaces nothing.
  have hnone := fun rule hrule =>
    Rule.replace?_eq_none_iff (t := (Rule.sewAll (replacing rules extension) t).text)
      (isReplacing_of_mem_replacing rule hrule) (hconverge.literals rule hrule).sourced
  rw [applyRules_fst isReplacing_of_mem_replacing, applyRules_eq_iff]
  constructor
  · intro h rule hrule u w v htext hmatches
    exact absurd hmatches ((hnone rule hrule).mp (h rule hrule) u w v htext)
  · intro h rule hrule
    rw [hnone rule hrule]
    intro u w v htext hmatches
    exact h rule hrule u w v htext hmatches
      (Rule.clean_sewAll hconverge t rule hrule u w v htext hmatches)

/-! ### Files -/

theorem wanted_of_rules_only {set : RuleSet} {fired : List Rule} (husage : set.usageImports = [])
    (hrequires : ∀ rule ∈ fired, rule.requires = none) (t : Text) : wanted set t fired = [] := by
  have hnone : fired.filterMap (·.requires) = [] := List.filterMap_eq_nil_iff.mpr hrequires
  rw [wanted, husage, hnone]
  rfl

theorem mem_of_mem_fired {rules : List Rule} {t : Text} :
    ∀ rule ∈ (applyRules rules t).2, rule ∈ rules := by
  induction rules generalizing t with
  | nil => simp [applyRules]
  | cons rule rules ih =>
    intro r hr
    cases hreplace : rule.replace? t with
    | none =>
      rw [applyRules_cons_none hreplace] at hr
      exact List.mem_cons_of_mem rule (ih r hr)
    | some next =>
      rw [applyRules_cons_some hreplace] at hr
      rcases List.mem_cons.mp hr with rfl | hr
      · exact List.mem_cons_self
      · exact List.mem_cons_of_mem rule (ih r hr)

/-- Fixing a file without canonical spellings and imports is running the rules for it. -/
theorem file_of_rules_only {set : RuleSet} (hnames : set.canonical.names = [])
    (husage : set.usageImports = []) (hrequires : ∀ rule ∈ set.rules, rule.requires = none)
    (path : Path) (t : Text) :
    (file set path t).newText = (applyRules (replacing set.rules path.extension) t).1 ∧
      (file set path t).fired = (applyRules (replacing set.rules path.extension) t).2.map
      (·.id) := by
  have hfired : ∀ rule ∈ (applyRules (replacing set.rules path.extension) t).2,
      rule.requires = none := fun rule hrule =>
    hrequires rule (List.mem_of_mem_filter (List.mem_of_mem_filter (mem_of_mem_fired rule hrule)))
  have hwanted := wanted_of_rules_only husage hfired
  have hsettle : settle set path.extension t =
      applyRules (replacing set.rules path.extension) t := by
    simp only [settle, CanonicalNames.apply_of_names_eq_nil hnames]
    rfl
  rw [file, hsettle]
  refine ⟨?_, rfl⟩
  simp only [requirements, hwanted]
  rfl

/-- Rules that were checked do nothing further if and only if no match touches a seam of the text
they ran on; and so does the fixing of a file, if nothing but rules takes part in it. -/
theorem again_iff {entries : List Config.RuleEntry} {rules : List Rule}
    (hcompile : RuleSet.compile entries = .ok rules)
    (hliteral : ∀ entry ∈ entries, ∀ r, entry.replacement = some r → '$' ∉ r.toList) :
    (∀ (extension : String) (t : Text),
      applyRules (replacing rules extension) (applyRules (replacing rules extension) t).1 =
          ((applyRules (replacing rules extension) t).1, []) ↔
        (Rule.sewAll (replacing rules extension) t).Smooth (replacing rules extension)) ∧
    ∀ (set : RuleSet) (path : Path) (t : Text), set.rules = rules → set.canonical.names = [] →
      set.usageImports = [] → (∀ rule ∈ rules, rule.requires = none) →
      ((file set path (file set path t).newText).newText = (file set path t).newText ∧
          (file set path (file set path t).newText).fired = [] ↔
        (Rule.sewAll (replacing rules path.extension) t).Smooth
          (replacing rules path.extension)) := by
  refine ⟨applyRules_again_iff hcompile hliteral, ?_⟩
  rintro set path t rfl hnames husage hrequires
  have honce := file_of_rules_only hnames husage hrequires path t
  have htwice := file_of_rules_only hnames husage hrequires path (file set path t).newText
  rw [← applyRules_again_iff hcompile hliteral, htwice.1, htwice.2, honce.1, List.map_eq_nil_iff,
    Prod.ext_iff]

/-! ### A rule that goes on -/

/-- Removes the letters `ab`. -/
def removal : Config.RuleEntry where
  id := "removal"
  kind := .replace
  pattern := "ab"
  replacement := some ""
  description := ""

/-- The same rule, ready to run. -/
def removalRule : Rule where
  id := "removal"
  kind := .replace
  pattern := ⟨"ab", ⟨#[.accept, .take (.char 'b') 0, .take (.char 'a') 1], 2, #[[1], [2], []]⟩, []⟩
  replacement := some ""
  description := ""
  appliesTo := []
  requires := none

theorem read_removal : Pattern.read removal.pattern = .ok removalRule.pattern := by
  decide

theorem compile_removal : RuleSet.compile [removal] = .ok [removalRule] := by
  have hrule : RuleSet.compileRule [] 0 removal = .ok removalRule := by
    rw [RuleSet.compileRule, read_removal]
    rfl
  have hcheck : RuleSet.checkConvergence [] [removalRule] = .ok () := by
    decide
  rw [RuleSet.compile, RuleSet.compileFrom, hrule]
  exact RuleSet.bind_eq_ok.mpr ⟨[removalRule], rfl, RuleSet.bind_eq_ok.mpr ⟨(), hcheck, rfl⟩⟩

theorem removal_literal :
    ∀ entry ∈ [removal], ∀ r, entry.replacement = some r → '$' ∉ r.toList := by
  intro entry hentry r hr
  obtain rfl := List.mem_singleton.mp hentry
  cases hr
  decide

/-- Of the letters `aabb` the two in the middle are removed, and then the two that are left. -/
theorem applyRules_removal :
    applyRules [removalRule] "aabb".toList = ("ab".toList, [removalRule]) ∧
      applyRules [removalRule] "ab".toList = ([], [removalRule]) ∧
      applyRules [removalRule] "cabc".toList = ("cc".toList, [removalRule]) ∧
      applyRules [removalRule] "cc".toList = ("cc".toList, []) := by
  decide

/-- The check of rules does not settle texts: rules that it accepts change a text further that they
ran on. -/
theorem not_settled_of_compile :
    ¬ ∀ (entries : List Config.RuleEntry) (rules : List Rule),
      RuleSet.compile entries = .ok rules →
      (∀ entry ∈ entries, ∀ r, entry.replacement = some r → '$' ∉ r.toList) →
      ∀ (extension : String) (t : Text),
        (applyRules (replacing rules extension) (applyRules (replacing rules extension) t).1).1 =
          (applyRules (replacing rules extension) t).1 := by
  intro h
  have hagain := h [removal] [removalRule] compile_removal removal_literal "ts" "aabb".toList
  have hrules : replacing [removalRule] "ts" = [removalRule] := rfl
  rw [hrules, applyRules_removal.1, applyRules_removal.2.1] at hagain
  cases hagain

/-- A removal leaves no match at its seam in `cabc`, and one in `aabb`. -/
theorem again_iff_removal :
    (Rule.sewAll [removalRule] "cabc".toList).Smooth [removalRule] ∧
      ¬ (Rule.sewAll [removalRule] "aabb".toList).Smooth [removalRule] := by
  have hiff := (again_iff compile_removal removal_literal).1 "ts"
  have hrules : replacing [removalRule] "ts" = [removalRule] := rfl
  rw [hrules] at hiff
  refine ⟨(hiff _).mp ?_, fun h => ?_⟩
  · rw [applyRules_removal.2.2.1, applyRules_removal.2.2.2]
  · have hagain := (hiff _).mpr h
    rw [applyRules_removal.1, applyRules_removal.2.1] at hagain
    cases hagain

end Fix

end DesignTokens
