import DesignTokens.Proofs.Fix.Requirements
import DesignTokens.Proofs.Scan.Comments
import DesignTokens.Proofs.Text.Parts
import DesignTokens.Proofs.Text.Places
import Mathlib.Data.List.Nodup

/-! # Uses of names

A name that has to be imported where it is used is used on a line that starts in no import, at a
place in front of which the line has no start of a comment. Only the first place of a line where the
name stands is looked at. This is enough: what stands before the first place stands before every
other one, so that with any other place the first one is free of comments.

What is asked for does not depend on the order in which rules matched or uses are listed, nor on how
often one of them is listed.

## Main definitions

* `Fix.UsedOn` - whether a name is used on a line
* `Fix.UsedIn` - whether a name is used in a text
* `Fix.IsTable` - a table with one non-empty set for each name

## Main results

* `Fix.isUsed_iff` - a name is used if some occurrence of it is a use
* `Fix.requirements_eq_of_mem_iff` - what is asked for depends on what is listed only
* `Fix.lists_requirements_iff_used` - exactly which names are to be imported
-/

namespace DesignTokens

/-! ### The first place of a name -/

namespace Text

variable {name t : Text} {before : Option Char} {offset n : Nat}

/-- The place that is found is the first one where the name stands between word boundaries. -/
theorem findWholeFrom_eq_some (h : findWholeFrom name before offset t = some n) :
    ∃ u v, t = u ++ v ∧ n = offset + byteSize u ∧
      occursAt true true name (u.getLast?.or before) v = true ∧
      ∀ u' v', t = u' ++ v' → occursAt true true name (u'.getLast?.or before) v' = true →
        u.length ≤ u'.length := by
  induction t generalizing before offset with
  | nil =>
    rw [findWholeFrom] at h
    split at h
    · rename_i hoccurs
      cases h
      exact ⟨[], [], rfl, rfl, hoccurs, fun _ _ _ _ => Nat.zero_le _⟩
    · cases h
  | cons c t ih =>
    rw [findWholeFrom] at h
    by_cases hhere : occursAt true true name before (c :: t) = true
    · rw [if_pos hhere] at h
      cases h
      exact ⟨[], c :: t, rfl, rfl, hhere, fun _ _ _ _ => Nat.zero_le _⟩
    · rw [if_neg hhere] at h
      obtain ⟨u, v, rfl, rfl, hoccurs, hfirst⟩ := ih h
      refine ⟨c :: u, v, rfl, ?_, ?_, ?_⟩
      · rw [byteSize, Nat.add_assoc]
      · rwa [getLast?_cons_or]
      · intro u' v' heq hoccurs'
        cases u' with
        | nil =>
          rw [List.nil_append] at heq
          subst heq
          exact absurd hoccurs' hhere
        | cons d u' =>
          obtain ⟨rfl, htail⟩ := List.cons.inj heq
          rw [getLast?_cons_or] at hoccurs'
          exact Nat.succ_le_succ (hfirst u' v' htail hoccurs')

end Text

namespace Fix

open Text

variable {usage : UsageImport} {spans : List Import.Span} {t line : Text}

/-- A line without its end, every carriage return and line feed at the end counting as part of it.
-/
def lineOf (raw : Text) : Text :=
  dropEndWhile (fun c => c = '\n' || c = '\r') raw

/-- A name stands between word boundaries in a line, at a place in front of which there is no start
of a comment. -/
def UsedOn (name line : Text) : Prop :=
  ∃ u v, line = u ++ (name ++ v) ∧ boundary u.getLast? (name ++ v).head? = true ∧
    boundary (u ++ name).getLast? v.head? = true ∧ Scan.Uncommented u

/-- A name is used on a line of a text that starts within none of the imports. -/
def UsedIn (name t : Text) : Prop :=
  ∃ above raw below, rawLines t = above ++ raw :: below ∧
    (∀ span ∈ Import.spans t,
      ¬ (span.start ≤ byteSize above.flatten ∧ byteSize above.flatten < span.stop)) ∧
    UsedOn name (lineOf raw)

/-! ### Uses on a line -/

theorem usedOn_iff {name : Text} : UsedOn name line ↔ ∃ u v, line = u ++ v ∧
    occursAt true true name (u.getLast?.or none) v = true ∧ Scan.Uncommented u := by
  constructor
  · rintro ⟨u, v, rfl, hlead, htrail, hfree⟩
    rw [List.getLast?_append] at htrail
    refine ⟨u, name ++ v, rfl, occursAt_eq_true_iff.mpr ⟨v, rfl, ?_, ?_⟩, hfree⟩
    · rwa [Option.or_none]
    · rwa [Option.or_none]
  · rintro ⟨u, w, rfl, hoccurs, hfree⟩
    obtain ⟨v, rfl, hlead, htrail⟩ := occursAt_eq_true_iff.mp hoccurs
    rw [Option.or_none] at hlead htrail
    refine ⟨u, v, rfl, hlead, ?_, hfree⟩
    rwa [List.getLast?_append]

/-- The first place where a name stands is a use of it if any place is. -/
theorem usedAt?_any_iff : (usage.usedAt? line).any (fun at_ => !Scan.isCommented line at_) = true ↔
    UsedOn usage.symbol.toList line := by
  rw [usedOn_iff, UsageImport.usedAt?, findWhole]
  cases hfind : findWholeFrom usage.symbol.toList none 0 line with
  | none =>
    constructor
    · intro h
      cases h
    · rintro ⟨u, v, heq, hoccurs, -⟩
      have hsome : (findWholeFrom usage.symbol.toList none 0 line).isSome = true :=
        findWholeFrom_isSome_iff.mpr ⟨u, v, heq, hoccurs⟩
      rw [hfind] at hsome
      cases hsome
  | some n =>
    obtain ⟨u, v, heq, rfl, hoccurs, hfirst⟩ := findWholeFrom_eq_some hfind
    rw [Option.any_some, Nat.zero_add, Bool.not_eq_true', heq, Scan.isCommented_append]
    constructor
    · intro hfree
      exact ⟨u, v, rfl, hoccurs, hfree⟩
    · -- Any other place comes later, and what stands before the first one stands before it too.
      rintro ⟨u', v', heq', hoccurs', hfree⟩
      have hlength := hfirst u' v' (heq.trans heq') hoccurs'
      have hstart : u' <+: u ++ v := ⟨v', heq'.symm⟩
      exact hfree.of_prefix (List.prefix_of_prefix_length_le (List.prefix_append u v) hstart
        hlength)

/-! ### Uses in a text -/

theorem isUsedFrom_iff {offset : Nat} {raws : List Text} :
    isUsedFrom usage spans offset raws = true ↔ ∃ above raw below, raws = above ++ raw :: below ∧
      spans.any (·.contains (offset + byteSize above.flatten)) = false ∧
      UsedOn usage.symbol.toList (lineOf raw) := by
  induction raws generalizing offset with
  | nil => simp [isUsedFrom]
  | cons first raws ih =>
    rw [isUsedFrom, Bool.or_eq_true, ih]
    rw [Bool.and_eq_true, Bool.not_eq_true', ← lineOf, usedAt?_any_iff]
    constructor
    · rintro (⟨hspans, hused⟩ | ⟨above, raw, below, rfl, hspans, hused⟩)
      · exact ⟨[], first, raws, rfl, hspans, hused⟩
      · refine ⟨first :: above, raw, below, rfl, ?_, hused⟩
        rwa [List.flatten_cons, byteSize_append, ← Nat.add_assoc]
    · rintro ⟨above, raw, below, heq, hspans, hused⟩
      cases above with
      | nil =>
        cases heq
        exact .inl ⟨hspans, hused⟩
      | cons other above =>
        obtain ⟨rfl, rfl⟩ := List.cons.inj heq
        rw [List.flatten_cons, byteSize_append, ← Nat.add_assoc] at hspans
        exact .inr ⟨above, raw, below, rfl, hspans, hused⟩

/-- A name is used in a text if some occurrence of it is a use. -/
theorem isUsed_iff : isUsed usage t = true ↔ UsedIn usage.symbol.toList t := by
  rw [isUsed, isUsedFrom_iff, UsedIn]
  simp only [Nat.zero_add, List.any_eq_false, Import.Span.contains, Bool.and_eq_true,
    decide_eq_true_eq]

/-! ### What is asked for -/

section

variable {set set' : RuleSet} {fired fired' : List Rule} {needed : ByName Names} {module x : String}

/-- Every set of names in a table is in increasing order. -/
def HasSets (table : ByName Names) : Prop :=
  ∀ entry ∈ table, Names.Increasing entry.2

theorem HasSets.want {symbols : Names} (hkeys : Names.Increasing (needed.map (·.1)))
    (h : HasSets needed) : HasSets (want module symbols needed) := by
  rintro ⟨other, value⟩ hentry
  rw [Fix.want, ByName.mem_alter hkeys] at hentry
  split at hentry
  · subst hentry
    apply Names.increasing_union
    cases hget : ByName.get? module needed with
    | none => exact .nil
    | some found => exact h _ (ByName.mem_of_get? hget)
  · exact h _ hentry

theorem HasSets.foldl_want {β : Type} (modules : β → String) (names : β → Names) (items : List β)
    (hkeys : Names.Increasing (needed.map (·.1))) (h : HasSets needed) :
    HasSets (items.foldl (fun n i => Fix.want (modules i) (names i) n) needed) := by
  induction items generalizing needed with
  | nil => exact h
  | cons i items ih => exact ih (increasing_want hkeys) (h.want hkeys)

theorem hasSets_requirements : HasSets (requirements set t fired) := by
  -- What rules require is asked for first, and then what is used; names left out keep the order.
  have hwanted : HasSets (wanted set t fired) :=
    .foldl_want UsageImport.module (fun u => [u.symbol]) _
      (increasing_foldl_want Requirement.module Requirement.symbols _ [] .nil)
      (.foldl_want Requirement.module Requirement.symbols _ .nil (by simp [HasSets]))
  intro need hneed
  rw [requirements, List.mem_filter, List.mem_map] at hneed
  obtain ⟨⟨⟨module, symbols⟩, hmem, rfl⟩, -⟩ := hneed
  exact (hwanted _ hmem).filter _

/-- In a table with one set for a name, the members of the set are what the table has under the
name. -/
theorem lists_iff_mem {table : ByName Names} {symbols : Names}
    (hkeys : Names.Increasing (table.map (·.1))) (h : (module, symbols) ∈ table) :
    Lists table module x ↔ x ∈ symbols := by
  constructor
  · rintro ⟨other, hother, hx⟩
    rw [← ByName.get?_eq_some_iff hkeys] at h hother
    obtain rfl := Option.some.inj (h.symm.trans hother)
    exact hx
  · intro hx
    exact ⟨symbols, h, hx⟩

/-- A table with one non-empty set for each name. -/
structure IsTable (table : ByName Names) : Prop where
  keys : Names.Increasing (table.map (·.1))
  sets : HasSets table
  ne_nil : ∀ entry ∈ table, entry.2 ≠ []

theorem IsTable.mem_of_lists_iff {a b : ByName Names} (ha : IsTable a) (hb : IsTable b)
    (h : ∀ module x, Lists a module x ↔ Lists b module x) {entry : String × Names}
    (hentry : entry ∈ a) : entry ∈ b := by
  obtain ⟨module, symbols⟩ := entry
  -- The set has a member, so the other table has a set for this module too, and they agree.
  obtain ⟨x, hx⟩ := List.exists_mem_of_ne_nil symbols (ha.ne_nil _ hentry)
  obtain ⟨other, hother, -⟩ := (h module x).mp ⟨symbols, hentry, hx⟩
  have hsame : symbols = other := by
    refine (ha.sets _ hentry).ext (hb.sets _ hother) fun y => ?_
    rw [← lists_iff_mem ha.keys hentry, ← lists_iff_mem hb.keys hother, h]
  rwa [hsame]

/-- Two tables that have the same under every name are equal. -/
theorem IsTable.eq_of_lists_iff {a b : ByName Names} (ha : IsTable a) (hb : IsTable b)
    (h : ∀ module x, Lists a module x ↔ Lists b module x) : a = b := by
  have hnodup : ∀ {table : ByName Names}, IsTable table → table.Nodup := fun htable =>
    htable.keys.nodup.of_map _
  refine List.Perm.eq_of_pairwise ?_ (List.pairwise_map.mp ha.keys) (List.pairwise_map.mp hb.keys)
    ((List.perm_ext_iff_of_nodup (hnodup ha) (hnodup hb)).mpr fun entry => ?_)
  · intro p q _ _ hpq hqp
    rw [nameLt_asymm hpq] at hqp
    cases hqp
  · exact ⟨ha.mem_of_lists_iff hb h, hb.mem_of_lists_iff ha fun module x => (h module x).symm⟩

theorem isTable_requirements : IsTable (requirements set t fired) :=
  ⟨increasing_requirements, hasSets_requirements, fun _ => ne_nil_of_mem_requirements⟩

/-- A name is asked for by a rule that matched or by a use of it. -/
theorem asks_iff : Asks set t fired module x ↔
    (∃ rule ∈ fired, ∃ r, rule.requires = some r ∧ r.module = module ∧ x ∈ r.symbols) ∨
      ∃ usage ∈ set.usageImports, usage.module = module ∧ usage.symbol = x ∧
        UsedIn usage.symbol.toList t := by
  constructor
  · rintro (⟨rule, r, hfired, hrequires, hmodule, hx⟩ | ⟨usage, husage, hused, hmodule, hx⟩)
    · exact .inl ⟨rule, hfired, r, hrequires, hmodule, hx⟩
    · exact .inr ⟨usage, husage, hmodule, hx, isUsed_iff.mp hused⟩
  · rintro (⟨rule, hfired, r, hrequires, hmodule, hx⟩ | ⟨usage, husage, hmodule, hx, hused⟩)
    · exact .required rule r hfired hrequires hmodule hx
    · exact .used usage husage (isUsed_iff.mpr hused) hmodule hx

/-- What is to be imported depends on which rules matched and which uses are listed, in whatever
order and however often. -/
theorem requirements_eq_of_mem_iff (hfired : ∀ rule, rule ∈ fired ↔ rule ∈ fired')
    (husages : ∀ usage, usage ∈ set.usageImports ↔ usage ∈ set'.usageImports) :
    requirements set t fired = requirements set' t fired' := by
  refine isTable_requirements.eq_of_lists_iff isTable_requirements fun module x => ?_
  rw [lists_requirements_iff, lists_requirements_iff, asks_iff, asks_iff]
  simp only [hfired, husages]

end

/-- A name is to be imported from a module if a rule that matched requires it or the text uses it,
and no import binds it and the text does not declare it. No module has an empty set of names. The
order and the repetition of rules and uses are of no account. -/
theorem lists_requirements_iff_used (set : RuleSet) (t : Text) (fired : List Rule) :
    (∀ module x, Lists (requirements set t fired) module x ↔
      ((∃ rule ∈ fired, ∃ r, rule.requires = some r ∧ r.module = module ∧ x ∈ r.symbols) ∨
        ∃ usage ∈ set.usageImports, usage.module = module ∧ usage.symbol = x ∧
          UsedIn usage.symbol.toList t) ∧
        x ∉ Import.boundNames t ∧ x ∉ Declaration.declaredNames t) ∧
      IsTable (requirements set t fired) ∧
      ∀ (set' : RuleSet) (fired' : List Rule), (∀ rule, rule ∈ fired ↔ rule ∈ fired') →
        (∀ usage, usage ∈ set.usageImports ↔ usage ∈ set'.usageImports) →
        requirements set' t fired' = requirements set t fired := by
  refine ⟨fun module x => ?_, isTable_requirements, fun set' fired' hfired husages => ?_⟩
  · rw [lists_requirements_iff, asks_iff]
  · exact (requirements_eq_of_mem_iff hfired husages).symm

/-- A set that wants `theme` imported where it is used, listed twice. -/
def themed : RuleSet where
  rules := []
  canonical := .empty
  usageImports := [⟨"theme", "ui"⟩, ⟨"theme", "ui"⟩]
  importHosts := []

/-- A use behind a comment is none, a use in front of one is. -/
theorem lists_requirements_themed :
    Lists (requirements themed "// theme\nlet x = theme // theme".toList []) "ui" "theme" ∧
      requirements { themed with usageImports := [⟨"theme", "ui"⟩] }
          "// theme\nlet x = theme // theme".toList [] =
        requirements themed "// theme\nlet x = theme // theme".toList [] := by
  obtain ⟨hlists, -, heq⟩ :=
    lists_requirements_iff_used themed "// theme\nlet x = theme // theme".toList []
  refine ⟨(hlists _ _).mpr ⟨.inr ?_, ?_⟩, heq _ [] (fun _ => Iff.rfl) ?_⟩
  · refine ⟨⟨"theme", "ui"⟩, List.mem_cons_self, rfl, rfl, isUsed_iff.mp ?_⟩
    decide +kernel
  · constructor
    · decide +kernel
    · decide
  · simp [themed]

end Fix

end DesignTokens
