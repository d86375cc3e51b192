import DesignTokens.Fix
import DesignTokens.Proofs.Names.Table
import DesignTokens.Proofs.Rule.Compilation

/-! # Names to import

A name is asked for from a module if a rule that matched requires it or if it is used. Those of them
are to be imported that the text neither binds by an import nor declares.

## Main definitions

* `Fix.Lists` - whether a table has a name under a module
* `Fix.Asks` - whether a name is asked for from a module

## Main results

* `Fix.lists_wanted_iff` - what rules and uses ask for
* `Fix.lists_requirements_iff` - which names are to be imported
* `Fix.increasing_requirements` - every module has one set of names
-/

namespace DesignTokens.Fix

open Text

/-- A table has a name under a module. -/
def Lists (table : ByName Names) (module x : String) : Prop :=
  ∃ symbols, (module, symbols) ∈ table ∧ x ∈ symbols

/-- A name is asked for from a module: a rule that matched requires it, or it is used. -/
inductive Asks (set : RuleSet) (t : Text) (fired : List Rule) (module x : String) : Prop where
  | required (rule : Rule) (r : Requirement) (hfired : rule ∈ fired)
      (hrequires : rule.requires = some r) (hmodule : r.module = module) (hsymbol : x ∈ r.symbols)
  | used (usage : UsageImport) (husage : usage ∈ set.usageImports) (hused : isUsed usage t = true)
      (hmodule : usage.module = module) (hsymbol : usage.symbol = x)

/-! ### Tables of names -/

section

variable {needed : ByName Names} {module other x : String} {symbols : Names}

theorem increasing_want (h : Names.Increasing (needed.map (·.1))) :
    Names.Increasing ((want module symbols needed).map (·.1)) := by
  rw [want, ByName.map_fst_alter]
  exact Names.increasing_insert module h

theorem lists_want_iff (h : Names.Increasing (needed.map (·.1))) :
    Lists (want module symbols needed) other x ↔
      Lists needed other x ∨ module = other ∧ x ∈ symbols := by
  simp only [Lists, want, ByName.mem_alter h]
  by_cases heq : other = module
  · subst heq
    simp only [if_true, exists_eq_left, Names.mem_union, true_and]
    cases hget : ByName.get? other needed with
    | none =>
      have habsent := ByName.get?_eq_none_iff.mp hget
      have hnone : ∀ v, (other, v) ∉ needed := fun v hv => habsent (List.mem_map_of_mem hv)
      simp [hnone]
    | some found =>
      have hfound : ∀ v, (other, v) ∈ needed ↔ v = found := by
        intro v
        rw [← ByName.get?_eq_some_iff h, hget, Option.some_inj, eq_comm]
      simp [hfound]
  · simp [heq, Ne.symm heq]

variable {β : Type} (modules : β → String) (names : β → Names) (items : List β)

theorem increasing_foldl_want (needed : ByName Names) (h : Names.Increasing (needed.map (·.1))) :
    Names.Increasing ((items.foldl (fun n i => want (modules i) (names i) n) needed).map
        (·.1)) := by
  induction items generalizing needed with
  | nil => exact h
  | cons i items ih => exact ih _ (increasing_want h)

/-- What a table has after names were wanted from several modules, one after the other. -/
theorem lists_foldl_want (needed : ByName Names) (h : Names.Increasing (needed.map (·.1))) :
    Lists (items.foldl (fun n i => want (modules i) (names i) n) needed) other x ↔
      Lists needed other x ∨ ∃ i ∈ items, modules i = other ∧ x ∈ names i := by
  induction items generalizing needed with
  | nil => simp
  | cons i items ih =>
    rw [List.foldl_cons, ih _ (increasing_want h), lists_want_iff h]
    simp only [List.mem_cons, or_and_right, exists_or, exists_eq_left, or_assoc]

end

/-! ### What is asked for and what is to be imported -/

section

variable {set : RuleSet} {t : Text} {fired : List Rule} {module x : String}

theorem increasing_wanted : Names.Increasing ((wanted set t fired).map (·.1)) :=
  increasing_foldl_want UsageImport.module (fun u => [u.symbol]) _ _
    (increasing_foldl_want Requirement.module Requirement.symbols _ [] .nil)

/-- What rules and uses ask for. -/
theorem lists_wanted_iff : Lists (wanted set t fired) module x ↔ Asks set t fired module x := by
  rw [wanted, lists_foldl_want UsageImport.module (fun u => [u.symbol]) _ _
      (increasing_foldl_want Requirement.module Requirement.symbols _ [] .nil),
    lists_foldl_want Requirement.module Requirement.symbols _ [] .nil]
  constructor
  · rintro ((⟨_, hnil, -⟩ | ⟨r, hr, hmodule, hx⟩) | ⟨usage, husage, hmodule, hx⟩)
    · cases hnil
    · obtain ⟨rule, hrule, hrequires⟩ := List.mem_filterMap.mp hr
      exact .required rule r hrule hrequires hmodule hx
    · obtain ⟨husage, hused⟩ := List.mem_filter.mp husage
      exact .used usage husage hused hmodule (List.mem_singleton.mp hx).symm
  · rintro (⟨rule, r, hfired, hrequires, hmodule, hx⟩ | ⟨usage, husage, hused, hmodule, hx⟩)
    · exact .inl (.inr ⟨r, List.mem_filterMap.mpr ⟨rule, hfired, hrequires⟩, hmodule, hx⟩)
    · exact .inr ⟨usage, List.mem_filter.mpr ⟨husage, hused⟩, hmodule,
        List.mem_singleton.mpr hx.symm⟩

/-- The names to import are those asked for that the text neither binds nor declares. -/
theorem lists_requirements_iff : Lists (requirements set t fired) module x ↔
    Asks set t fired module x ∧ x ∉ Import.boundNames t ∧ x ∉ Declaration.declaredNames t := by
  rw [← lists_wanted_iff]
  simp only [Lists, requirements, List.mem_filter, List.mem_map]
  constructor
  · rintro ⟨symbols, ⟨⟨⟨module', all⟩, hmem, heq⟩, -⟩, hx⟩
    cases heq
    obtain ⟨hx, hfree⟩ := List.mem_filter.mp hx
    simp only [Bool.and_eq_true, Bool.not_eq_true', List.contains_eq_mem, decide_eq_false_iff_not]
      at hfree
    exact ⟨⟨all, hmem, hx⟩, hfree⟩
  · rintro ⟨⟨all, hmem, hx⟩, hbound, hdeclared⟩
    have hleft : x ∈ all.filter fun s =>
        !(Import.boundNames t).contains s && !(Declaration.declaredNames t).contains s := by
      rw [List.mem_filter]
      exact ⟨hx, by simp [hbound, hdeclared]⟩
    refine ⟨_, ⟨⟨(module, all), hmem, rfl⟩, ?_⟩, hleft⟩
    simpa using List.ne_nil_of_mem hleft

/-- Every module has one set of names to import. -/
theorem increasing_requirements : Names.Increasing ((requirements set t fired).map (·.1)) := by
  have hwanted : Names.Increasing ((wanted set t fired).map (·.1)) := increasing_wanted
  rw [requirements]
  refine List.Pairwise.sublist (List.filter_sublist.map _) ?_
  rw [List.map_map]
  exact hwanted

theorem ne_nil_of_mem_requirements {need : String × Names} (h : need ∈ requirements set t fired) :
    need.2 ≠ [] := by
  rw [requirements, List.mem_filter] at h
  simpa using h.2

/-- A module has exactly one set of names to import. -/
theorem eq_of_mem_requirements {symbols symbols' : Names}
    (h : (module, symbols) ∈ requirements set t fired)
    (h' : (module, symbols') ∈ requirements set t fired) : symbols = symbols' := by
  rw [← ByName.get?_eq_some_iff increasing_requirements] at h h'
  exact Option.some.inj (h.symm.trans h')

/-- What a set asks for are identifiers, from the modules of the set. -/
theorem Asks.valid (h : Asks set t fired module x) (hset : set.AsksForIdentifiers)
    (hfired : ∀ rule ∈ fired, rule ∈ set.rules) :
    isIdentifier x.toList = true ∧ module ∈ set.modules := by
  rw [RuleSet.modules, List.mem_append]
  cases h with
  | required rule r hrule hrequires hmodule hx =>
    refine ⟨hset.required rule (hfired rule hrule) r hrequires x hx, .inl ?_⟩
    rw [← hmodule]
    exact List.mem_map_of_mem (List.mem_filterMap.mpr ⟨rule, hfired rule hrule, hrequires⟩)
  | used usage husage hused hmodule hx =>
    refine ⟨hx ▸ hset.used usage husage, .inr ?_⟩
    rw [← hmodule]
    exact List.mem_map_of_mem husage

end

end DesignTokens.Fix
