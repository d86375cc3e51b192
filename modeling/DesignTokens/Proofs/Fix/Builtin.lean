import DesignTokens.Proofs.Config.Builtin
import DesignTokens.Proofs.Fix.Again

/-! # Fixing with the configuration that comes with the program

After the rules ran a text has no weight that they replace, and after the canonical spellings were
put in it has none of the others. Neither comes back with the imports that are added, so a second
run has nothing to replace. Nor has it a name to import that the first run did not import or report.

## Main results

* `Fix.clear_weighs`, `Fix.clear_stands` - imports make neither weights nor spellings to replace
* `Fix.weightless_settle`, `Fix.absent_stands_settle` - the settled text has neither of them
* `Fix.builtin_again` - fixing a text once more does nothing
-/

namespace DesignTokens.Fix

open Config.Builtin FontWeight Import Text

/-! ### Weights and spellings -/

theorem not_mem_of_mayWeigh {digit c : Char} {w : Text} (h : Weighs digit w)
    (hdigit : digit ∈ digits) (hc : mayWeigh c = false) : c ∉ w := by
  obtain ⟨_, -, -, hchars⟩ := h.chars hdigit
  intro hmem
  rw [hchars c hmem] at hc
  cases hc

/-- Imports make no weights. -/
theorem clear_weighs {digit : Char} (hdigit : digit ∈ digits) :
    Clear fun _ w _ => Weighs digit w where
  sides h _ _ := h
  braces h := ⟨not_mem_of_mayWeigh h hdigit (by decide),
    not_mem_of_mayWeigh h hdigit (by decide)⟩
  mark h := by
    obtain ⟨bs, q, q', rfl, -⟩ := isWeight_of_run h
    have hkey : key.dropLast.all (fun c => c != '\n' && c != '\r') = true := by decide
    refine ⟨key.dropLast, ':', bs ++ [q, digit, '0', '0', q'], rfl, .inl rfl, fun c hc => ?_⟩
    simpa using List.all_eq_true.mp hkey c hc
  last h := by
    obtain ⟨bs, q, q', rfl, -, -, hq'⟩ := isWeight_of_run h
    have hlast : (key ++ (bs ++ [q, digit, '0', '0', q'])).getLast? = some q' := by simp
    rw [hlast]
    rintro c ⟨⟩
    constructor
    · rintro rfl
      exact absurd hq' (by decide)
    · rintro rfl
      exact absurd hq' (by decide)
  step h x y heq := by
    -- The only `i` of a weight is in the name of the property, where no line ends.
    obtain ⟨bs, q, q', rfl, hbs, hq, hq'⟩ := isWeight_of_run h
    have hletter : 'i' ∉ bs ++ [q, digit, '0', '0', q'] := by
      have hblank : blanks.contains 'i' = false := by decide
      have hquote : quotes.contains 'i' = false := by decide
      intro hmem
      simp only [List.mem_append, List.mem_cons, List.not_mem_nil, or_false] at hmem
      rcases hmem with hmem | rfl | rfl | hmem | hmem | rfl
      · rw [hbs _ hmem] at hblank
        cases hblank
      · rw [hq] at hquote
        cases hquote
      · exact absurd hdigit (by decide)
      · exact absurd hmem (by decide)
      · exact absurd hmem (by decide)
      · rw [hq'] at hquote
        cases hquote
    rcases append_eq_append heq with ⟨z, rfl, hz⟩ | ⟨z, hz, hkey, hrest⟩
    · rw [hz] at hletter
      exact hletter (by simp)
    · obtain ⟨c, z, rfl⟩ := List.exists_cons_of_ne_nil hz
      obtain ⟨rfl, -⟩ := List.cons.inj hrest
      have hline : '\n' ∉ key := by decide
      exact hline (by simp [hkey])

/-- The spellings to replace have a dot, and neither braces nor line ends. -/
theorem canonicalNames_dotted : canonicalNames.names.all (fun entry =>
    entry.1.toList.contains '.' &&
      entry.1.toList.all fun c => c != '{' && c != '}' && c != '\n' && c != '\r') = true := by
  decide

/-- Imports make no spellings to replace. -/
theorem clear_stands : Clear (CanonicalNames.Stands canonicalNames.names) := by
  have hchars : ∀ {u w v}, CanonicalNames.Stands canonicalNames.names u w v → '.' ∈ w ∧
      ∀ c ∈ w, c ≠ '{' ∧ c ≠ '}' ∧ c ≠ '\n' ∧ c ≠ '\r' := by
    rintro u w v ⟨entry, hentry, rfl, -⟩
    have hentry := List.all_eq_true.mp canonicalNames_dotted entry hentry
    rw [Bool.and_eq_true, List.all_eq_true] at hentry
    refine ⟨by simpa using hentry.1, fun c hc => ?_⟩
    simpa [and_assoc] using hentry.2 c hc
  refine ⟨fun h => h.of_sides separate_names, fun h => ?_, fun h => ?_, fun h c hc => ?_,
    fun h x y heq => ?_⟩
  · exact ⟨fun hmem => ((hchars h).2 _ hmem).1 rfl, fun hmem => ((hchars h).2 _ hmem).2.1 rfl⟩
  · obtain ⟨hdot, hplain⟩ := hchars h
    obtain ⟨x, y, rfl⟩ := List.append_of_mem hdot
    exact ⟨x, '.', y, rfl, .inr rfl, fun c hc => (hplain c (List.mem_append_left _ hc)).2.2⟩
  · exact ((hchars h).2 c (List.mem_of_getLast? hc)).2.2
  · exact ((hchars h).2 '\n' (by simp [heq])).2.2.1 rfl

/-! ### The settled text -/

section

variable {set : RuleSet} {digit : Char} {t : Text}

/-- The replacing rules for a file replace weights. -/
theorem exists_replaces_of_mem (hset : set.LoadedFrom Config.builtin) {extension : String} :
    ∀ rule ∈ (set.forExtension extension).filter Rule.isReplacing,
      ∃ digit, Replaces rule digit := by
  intro rule hrule
  obtain ⟨hrule, hreplaces⟩ := List.mem_filter.mp hrule
  obtain ⟨_, digit, hweight, hmade⟩ :=
    exists_replaces hset.rules (List.mem_filter.mp hrule).1 hreplaces
  exact ⟨digit, hweight.replaces hmade⟩

/-- What is put in place of another spelling is apart from weights. -/
theorem apart_of_hit (hset : set.LoadedFrom Config.builtin) {found : Text} {canonical : String}
    (h : .hit found canonical ∈ hits (CanonicalNames.probe set.canonical.names) t) :
    Apart (CanonicalNames.put found canonical) := by
  obtain ⟨front, back, hparts⟩ := List.append_of_mem h
  obtain ⟨spelling, hmem, -⟩ := CanonicalNames.exists_stands_of_hit hparts
  rw [hset.canonical] at hmem
  have hplain := List.all_eq_true.mp canonicalNames_plain (spelling, canonical) hmem
  rw [Bool.and_eq_true, List.all_eq_true] at hplain
  -- The spelling starts with a character of no weight, and no weight starts in it.
  obtain ⟨hchars, hhead⟩ := hplain
  rw [CanonicalNames.put]
  cases htext : canonical.toList with
  | nil =>
    rw [htext] at hhead
    cases hhead
  | cons c rest =>
    rw [htext] at hchars hhead
    refine apart_cons (fun hf => ?_) (.inl (by simpa using hhead))
    simpa using hchars 'f' (List.mem_cons_of_mem c hf)

/-- The settled text has no weights. -/
theorem weightless_settle (hset : set.LoadedFrom Config.builtin) (hdigit : digit ∈ digits)
    (extension : String) (t : Text) : Weightless digit (settle set extension t).1 := by
  obtain ⟨rule, hrule, hfor, hreplaces⟩ := exists_rule hset.rules hdigit extension
  have hmem : rule ∈ (set.forExtension extension).filter Rule.isReplacing :=
    List.mem_filter.mpr ⟨List.mem_filter.mpr ⟨hrule, hfor⟩, hreplaces.replaces⟩
  have hfree := weightless_applyRules (t := t) (exists_replaces_of_mem hset) hmem hreplaces
  have hsettle : (settle set extension t).1 = set.canonical.apply
      (applyRules ((set.forExtension extension).filter Rule.isReplacing) t).1 := rfl
  rw [hsettle, CanonicalNames.apply_eq]
  refine weightless_replaceParts hdigit (fun _ _ h => apart_of_hit hset h) fun u w v hflat hw => ?_
  rw [flat_hits] at hflat
  exact absurd hw (hfree u w v hflat)

/-- The settled text has no spelling to replace. -/
theorem absent_stands_settle (hset : set.LoadedFrom Config.builtin) (extension : String)
    (t : Text) :
    Absent (CanonicalNames.Stands canonicalNames.names) (settle set extension t).1 := by
  have hseparate : CanonicalNames.Separate set.canonical.names := by
    rw [hset.canonical]
    exact separate_names
  have hrest := CanonicalNames.replace?_eq_none_iff.mp
    (CanonicalNames.replace?_apply_of_separate hseparate
      (applyRules ((set.forExtension extension).filter Rule.isReplacing) t).1)
  intro u w v htext hstands
  refine hrest u w v htext ?_
  rw [hset.canonical]
  exact hstands

/-- A text without weights and spellings to replace is left alone. -/
theorem settle_of_absent (hset : set.LoadedFrom Config.builtin) (extension : String)
    (hweights : ∀ digit ∈ digits, Weightless digit t)
    (hstands : Absent (CanonicalNames.Stands canonicalNames.names) t) :
    settle set extension t = (t, []) := by
  have hrules : applyRules ((set.forExtension extension).filter Rule.isReplacing) t = (t, []) := by
    rw [applyRules_eq_iff]
    intro rule hrule
    obtain ⟨digit, hreplaces⟩ := exists_replaces_of_mem hset rule hrule
    exact hreplaces.replace?_eq_none (hweights digit hreplaces.mem_digits)
  have hcanonical : set.canonical.apply t = t := by
    refine CanonicalNames.apply_of_replace?_eq_none (CanonicalNames.replace?_eq_none_iff.mpr ?_)
    rw [hset.canonical]
    exact hstands
  rw [settle, hrules]
  exact congrArg (·, []) hcanonical

/-! ### Fixing again -/

/-- Names are imported from modules whose names can stand in any import, and have no dot. -/
theorem modest_of_mem_modules (hset : set.LoadedFrom Config.builtin) {module : String}
    (h : module ∈ set.modules) : Modest module ∧ '.' ∉ module.toList := by
  have hmodules : ∀ m ∈ [tokenModule, "@utils/theme"], Modest m ∧ '.' ∉ m.toList := by
    decide
  have hrules : Config.Builtin.rules.all (fun entry =>
      entry.requires.all (·.module = tokenModule)) = true := by decide
  have husages : Config.Builtin.imports.all (fun usage =>
      usage.module = tokenModule || usage.module = "@utils/theme") = true := by decide
  refine hmodules module ?_
  rcases hset.mem_modules h with ⟨entry, hentry, r, hr, rfl⟩ | ⟨usage, husage, rfl⟩
  · have hmodule := List.all_eq_true.mp hrules entry hentry
    rw [hr, Option.all_some, decide_eq_true_eq] at hmodule
    simp [hmodule]
  · simpa using List.all_eq_true.mp husages usage husage

/-- Fixing a fixed text does nothing: no rule matches it, no spelling is replaced, and no import is
added. The text is the one that came with the first run, whose last import ends its line. -/
theorem builtin_again : ∃ set, RuleSet.load Config.builtin = .ok set ∧ ∀ (path : Path) (t : Text),
    Tidy (settle set path.extension t).1 →
      (file set path (file set path t).newText).newText = (file set path t).newText ∧
        (file set path (file set path t).newText).changed = false ∧
        (file set path (file set path t).newText).fired = [] ∧
        (file set path (file set path t).newText).importsAdded = [] := by
  obtain ⟨set, hload⟩ := exists_load_builtin
  have hset := RuleSet.loadedFrom_of_load hload
  have hasks := RuleSet.asksForIdentifiers_of_load hload
  have hmodules : ∀ module ∈ set.modules, Modest module := fun module h =>
    (modest_of_mem_modules hset h).1
  have hdots : ∀ module ∈ set.modules, '.' ∉ module.toList := fun module h =>
    (modest_of_mem_modules hset h).2
  refine ⟨set, hload, fun path t htidy => file_newText hasks hmodules htidy ?_⟩
  -- What fixing left behind has no weight and no spelling, so that rules and names find nothing.
  refine settle_of_absent hset path.extension (fun digit hdigit => ?_) ?_
  · exact absent_newText hasks hmodules hdots (clear_weighs hdigit)
      (weightless_settle hset hdigit path.extension t)
  · exact absent_newText hasks hmodules hdots clear_stands
      (absent_stands_settle hset path.extension t)

/-- A text that uses a name without an import of it is tidy, and rests after the first run. -/
theorem builtin_again_spacing : ∃ set, RuleSet.load Config.builtin = .ok set ∧
    Tidy (settle set (Path.extension ⟨"a.ts"⟩) "SPACING".toList).1 ∧
    (file set ⟨"a.ts"⟩ (file set ⟨"a.ts"⟩ "SPACING".toList).newText).newText =
      (file set ⟨"a.ts"⟩ "SPACING".toList).newText := by
  obtain ⟨set, hload, hagain⟩ := builtin_again
  have hset := RuleSet.loadedFrom_of_load hload
  have hquotes : "SPACING".toList.all (!quotes.contains ·) = true := by decide
  have hweights : ∀ digit ∈ digits, Weightless digit "SPACING".toList := fun digit _ =>
    weightless_of_not_quotes fun c hc => by simpa using List.all_eq_true.mp hquotes c hc
  have hstands : Absent (CanonicalNames.Stands canonicalNames.names) "SPACING".toList := by
    intro u w v htext h
    obtain ⟨x, d, y, rfl, hd, -⟩ := clear_stands.mark h
    have hmem : d ∈ "SPACING".toList := by simp [htext]
    rcases hd with rfl | rfl
    · exact absurd hmem (by decide)
    · exact absurd hmem (by decide)
  have htidy : Tidy (settle set (Path.extension ⟨"a.ts"⟩) "SPACING".toList).1 := by
    rw [settle_of_absent hset _ hweights hstands]
    exact ⟨by decide +kernel, by decide +kernel⟩
  exact ⟨set, hload, htidy, (hagain ⟨"a.ts"⟩ "SPACING".toList htidy).1⟩

end

end DesignTokens.Fix
