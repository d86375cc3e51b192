import DesignTokens.Proofs.Fix.Requirements
import DesignTokens.Proofs.Fix.RulesOnly
import DesignTokens.Proofs.Import.EnsureLaws
import Mathlib.Data.List.Nodup

/-! # Imports of fixed texts

The names wanted from the modules are added one module after the other. What one step adds no later
one takes away, and where a step fails the text stays as it is and a finding says which names are
missing. So after all steps every name that was wanted is bound or reported.

## Main definitions

* `Finding.missing` - the names that a finding reports as missing
* `Finding.Reports` - whether a finding reports the names wanted from a module
* `Fix.Covers` - what holds between two steps

## Main results

* `Fix.Covers.addImport` - what one step preserves
* `Fix.covers_addImports` - what holds after all steps
* `Fix.bound_or_reported` - every name that is to be imported is bound or reported
-/

namespace DesignTokens

open Text Import

/-! ### Findings of missing names -/

/-- The names that the description of a finding lists as missing. -/
def Finding.missing (f : Finding) : List String :=
  match after? "missing \x7b".toList f.description.toList with
  | some rest => (listEntries (rest.takeWhile (· ≠ '}'))).map String.ofList
  | none => []

/-- A finding reports the names wanted from a module as missing. -/
structure Finding.Reports (f : Finding) (need : String × Names) : Prop where
  kind : f.kind = .unsupportedImportShape
  module : f.matched = need.1
  missing : f.missing = need.2

namespace Fix

theorem intercalate_eq_listText (symbols : List String) :
    [',', ' '].intercalate (symbols.map String.toList) = listText symbols := by
  rw [listText]
  induction symbols with
  | nil => rfl
  | cons x symbols ih =>
    cases symbols with
    | nil => simp [joinWith]
    | cons y symbols =>
      rw [List.map_cons, List.map_cons, List.intercalate_cons_cons, ← List.map_cons, ih]
      simp [joinWith]

theorem missing_unresolvedFinding {file : Path} {t : Text} {symbols : Names} {e : Import.Error}
    {module : String} (h : ∀ x ∈ symbols, isIdentifier x.toList = true) :
    (unresolvedFinding file t symbols e module).missing = symbols := by
  -- The brace that ends the list is in none of its names.
  have hbrace : ∀ c ∈ ' ' :: listText symbols ++ [' '], decide (c ≠ '}') = true := by
    intro c hc
    simp only [List.cons_append, List.mem_cons, List.mem_append, List.not_mem_nil, or_false] at hc
    rw [decide_eq_true_eq]
    rintro rfl
    rcases hc with hc | hc | hc
    · cases hc
    · exact not_mem_listText h (by decide) (by decide) (by decide) hc
    · cases hc
  have htext : (unresolvedFinding file t symbols e module).description.toList =
      "missing \x7b".toList ++
        ((' ' :: listText symbols ++ [' ']) ++ ('}' :: (": ".toList ++ e.message.toList))) := by
    simp [unresolvedFinding, intercalate_eq_listText]
  rw [Finding.missing, htext, after?_append]
  simp only
  rw [takeWhile_append_stop hbrace (by simp), listText, listEntries_spaced (by simpa using h)]
  simp

theorem reports_unresolvedFinding (file : Path) (t : Text) (e : Import.Error)
    {need : String × Names} (h : ∀ x ∈ need.2, isIdentifier x.toList = true) :
    (unresolvedFinding file t need.2 e need.1).Reports need :=
  ⟨rfl, rfl, missing_unresolvedFinding h⟩

/-! ### One module after the other -/

/-- What holds after the names wanted from some modules were added to the text `t`: they are bound
or reported, nothing else is reported, and the names that were added are all that is newly bound. -/
structure Covers (t : Text) (done : ByName Names) (state : Imports) : Prop where
  resolved : ∀ need ∈ done,
    (∀ x ∈ need.2, x ∈ boundNames state.text) ∨ ∃ f ∈ state.unresolved, f.Reports need
  reported : ∀ f ∈ state.unresolved, ∃ need ∈ done, f.Reports need
  added : ∀ a ∈ state.added, a ∈ done
  bound : ∀ x, x ∈ boundNames state.text ↔ x ∈ boundNames t ∨ ∃ a ∈ state.added, x ∈ a.2

section

variable {set : RuleSet} {file : Path} {t : Text} {done needed : ByName Names} {state : Imports}
  {need : String × Names}

theorem addImport_of_ok {next : Text}
    (h : ensure set.importHosts state.text need.1 need.2 = .ok next) (hne : next ≠ state.text) :
    addImport set file state need =
      ⟨next, state.added.insert need.1 need.2, state.unresolved⟩ := by
  simp only [addImport, h, if_neg hne]

theorem addImport_of_error {e : Import.Error}
    (h : ensure set.importHosts state.text need.1 need.2 = .error e) :
    addImport set file state need = { state with
      unresolved := state.unresolved ++ [unresolvedFinding file state.text need.2 e need.1] } := by
  simp only [addImport, h]

/-- A step that reports what could not be added. -/
theorem Covers.report {f : Finding} (h : Covers t done state) (hreports : f.Reports need) :
    Covers t (done ++ [need]) { state with unresolved := state.unresolved ++ [f] } := by
  have hdone : ∀ n ∈ done, n ∈ done ++ [need] := fun n => List.mem_append_left _
  refine ⟨?_, ?_, fun a ha => hdone a (h.added a ha), h.bound⟩
  · intro n hn
    rcases List.mem_append.mp hn with hn | hn
    · rcases h.resolved n hn with hbound | ⟨f', hf, hreport⟩
      · exact .inl hbound
      · exact .inr ⟨f', List.mem_append_left _ hf, hreport⟩
    · obtain rfl := List.mem_singleton.mp hn
      exact .inr ⟨f, by simp, hreports⟩
  · intro f' hf
    rcases List.mem_append.mp hf with hf | hf
    · obtain ⟨n, hn, hreport⟩ := h.reported f' hf
      exact ⟨n, hdone n hn, hreport⟩
    · obtain rfl := List.mem_singleton.mp hf
      exact ⟨need, by simp, hreports⟩

/-- A step that binds the names wanted and loses none. -/
theorem Covers.bind {next : Text} {added : ByName Names} (h : Covers t done state)
    (hbound : ∀ x, x ∈ boundNames next ↔ x ∈ boundNames state.text ∨ x ∈ need.2)
    (hadded : ∀ a ∈ added, a ∈ done ++ [need])
    (hnew : ∀ x, x ∈ boundNames next ↔ x ∈ boundNames t ∨ ∃ a ∈ added, x ∈ a.2) :
    Covers t (done ++ [need]) ⟨next, added, state.unresolved⟩ := by
  refine ⟨?_, ?_, hadded, hnew⟩
  · intro n hn
    rcases List.mem_append.mp hn with hn | hn
    · rcases h.resolved n hn with hall | hreport
      · exact .inl fun x hx => (hbound x).mpr (.inl (hall x hx))
      · exact .inr hreport
    · obtain rfl := List.mem_singleton.mp hn
      exact .inl fun x hx => (hbound x).mpr (.inr hx)
  · intro f hf
    obtain ⟨n, hn, hreport⟩ := h.reported f hf
    exact ⟨n, List.mem_append_left _ hn, hreport⟩

/-- One step preserves what holds between steps. -/
theorem Covers.addImport (h : Covers t done state) (hnew : need.1 ∉ done.map (·.1))
    (hmodule : Quotable need.1) (hsymbols : ∀ x ∈ need.2, isIdentifier x.toList = true) :
    Covers t (done ++ [need]) (addImport set file state need) := by
  have hadded : ∀ a ∈ state.added, a ∈ done ++ [need] := fun a ha =>
    List.mem_append_left _ (h.added a ha)
  rw [Fix.addImport]
  cases hensure : ensure set.importHosts state.text need.1 need.2 with
  | error e => exact h.report (reports_unresolvedFinding file state.text e hsymbols)
  | ok next =>
    have hbound : ∀ x, x ∈ boundNames next ↔ x ∈ boundNames state.text ∨ x ∈ need.2 :=
      fun _ => mem_boundNames_ensure hmodule hsymbols hensure
    by_cases hsame : next = state.text
    · subst hsame
      simp only [if_true]
      exact h.bind hbound hadded h.bound
    · simp only [if_neg hsame]
      -- Names were added for no such module yet, so that the entry is a new one.
      have hfresh : need.1 ∉ state.added.map (·.1) := by
        intro hmem
        obtain ⟨a, ha, heq⟩ := List.mem_map.mp hmem
        exact hnew (heq ▸ List.mem_map_of_mem (h.added a ha))
      refine h.bind hbound ?_ fun x => ?_
      · intro a ha
        rcases (ByName.mem_insert_of_new hfresh).mp ha with rfl | ha
        · simp
        · exact hadded a ha
      · simp only [ByName.mem_insert_of_new hfresh, or_and_right, exists_or, exists_eq_left]
        rw [hbound, h.bound, or_assoc, or_comm (b := x ∈ need.2)]

/-- What holds after all steps. -/
theorem Covers.foldl (h : Covers t done state)
    (hnew : ((done ++ needed).map (·.1)).Nodup) (hmodules : ∀ n ∈ needed, Quotable n.1)
    (hsymbols : ∀ n ∈ needed, ∀ x ∈ n.2, isIdentifier x.toList = true) :
    Covers t (done ++ needed) (needed.foldl (Fix.addImport set file) state) := by
  induction needed generalizing done state with
  | nil => simpa using h
  | cons need needed ih =>
    have happend : done ++ need :: needed = done ++ [need] ++ needed := by simp
    rw [happend] at hnew ⊢
    have hfresh : need.1 ∉ done.map (·.1) := by
      rw [List.map_append, List.map_append, List.append_assoc] at hnew
      intro hmem
      exact List.disjoint_of_nodup_append hnew hmem (by simp)
    refine ih (h.addImport hfresh (hmodules need List.mem_cons_self)
      (hsymbols need List.mem_cons_self)) hnew ?_ ?_
    · exact fun n hn => hmodules n (List.mem_cons_of_mem need hn)
    · exact fun n hn => hsymbols n (List.mem_cons_of_mem need hn)

end

/-! ### Fixed texts -/

theorem kind_of_mem_withRules {file : Path} {t : Text} {rules : List Rule} :
    ∀ f ∈ Scan.withRules file t rules, f.kind = .detection := by
  have hline : ∀ number (line : Text), ∀ f ∈ rules.filterMap (Scan.findingOn? file number line),
      f.kind = .detection := by
    intro number line f hf
    obtain ⟨rule, -, hfound⟩ := List.mem_filterMap.mp hf
    rw [Scan.findingOn?] at hfound
    split at hfound
    · cases hfound
    · split at hfound
      · cases hfound
      · cases hfound
        rfl
  suffices h : ∀ (lines : List Text) number, ∀ f ∈ Scan.linesFrom file rules number lines,
      f.kind = .detection from h _ 1
  intro lines
  induction lines with
  | nil => simp [Scan.linesFrom]
  | cons line lines ih =>
    intro number f hf
    rcases List.mem_append.mp hf with hf | hf
    · exact hline number line f hf
    · exact ih (number + 1) f hf

/-- The names that a file is to import: those that the settled text asks for. -/
def needs (set : RuleSet) (path : Path) (t : Text) : ByName Names :=
  requirements set (settle set path.extension t).1 (settle set path.extension t).2

section

variable {config : Config} {set : RuleSet} {path : Path} {t : Text}

theorem importsAdded_file : (file set path t).importsAdded =
    (addImports set path (settle set path.extension t).1 (needs set path t)).added := rfl

theorem mem_rules_of_mem_settle {extension : String} :
    ∀ rule ∈ (settle set extension t).2, rule ∈ set.rules :=
  fun _ hrule => List.mem_of_mem_filter (List.mem_of_mem_filter (mem_of_mem_fired _ hrule))

/-- The names that a file is to import are identifiers, from the modules of the set. -/
theorem valid_of_mem_needs (hset : set.AsksForIdentifiers) :
    ∀ need ∈ needs set path t,
      need.1 ∈ set.modules ∧ ∀ x ∈ need.2, isIdentifier x.toList = true := by
  intro need hneed
  have hvalid : ∀ x ∈ need.2, isIdentifier x.toList = true ∧ need.1 ∈ set.modules := by
    intro x hx
    have hasks := (lists_requirements_iff.mp ⟨need.2, hneed, hx⟩).1
    exact hasks.valid hset mem_rules_of_mem_settle
  obtain ⟨x, hx⟩ := List.exists_mem_of_ne_nil need.2 (ne_nil_of_mem_requirements hneed)
  exact ⟨(hvalid x hx).2, fun y hy => (hvalid y hy).1⟩

/-- What holds after all steps. -/
theorem covers_addImports (hset : set.AsksForIdentifiers)
    (hmodules : ∀ module ∈ set.modules, Quotable module) (path : Path) (t : Text) :
    Covers (settle set path.extension t).1 (needs set path t)
      (addImports set path (settle set path.extension t).1 (needs set path t)) := by
  have hstart : Covers (settle set path.extension t).1 []
      ⟨(settle set path.extension t).1, [], []⟩ := ⟨by simp, by simp, by simp, by simp⟩
  refine hstart.foldl ?_ ?_ ?_
  · exact Names.Increasing.nodup increasing_requirements
  · exact fun need hneed => hmodules need.1 (valid_of_mem_needs hset need hneed).1
  · exact fun need hneed => (valid_of_mem_needs hset need hneed).2

theorem mem_unresolved_file {f : Finding} (hkind : f.kind = .unsupportedImportShape) :
    f ∈ (file set path t).unresolved ↔
      f ∈ (addImports set path (settle set path.extension t).1 (needs set path t)).unresolved := by
  simp only [file, byLine, List.mem_mergeSort, List.mem_append]
  rw [or_iff_left]
  · rfl
  · intro hf
    rw [kind_of_mem_withRules f hf] at hkind
    cases hkind

/-- Every name that a file is to import is bound by the imports of its new text or reported as
missing, and nothing else is reported as missing. The names that the new text binds are those that
the settled text binds and those that are said to be added. -/
theorem bound_or_reported (hload : RuleSet.load config = .ok set)
    (hmodules : ∀ module ∈ set.modules, Quotable module) (path : Path) (t : Text) :
    (∀ need ∈ needs set path t, ∀ x ∈ need.2,
      x ∈ boundNames (file set path t).newText ∨
        ∃ f ∈ (file set path t).unresolved,
          f.kind = .unsupportedImportShape ∧ f.matched = need.1 ∧ x ∈ f.missing) ∧
    (∀ f ∈ (file set path t).unresolved, f.kind = .unsupportedImportShape →
      ∃ need ∈ needs set path t, f.Reports need) ∧
    ∀ x, x ∈ boundNames (file set path t).newText ↔
      x ∈ boundNames (settle set path.extension t).1 ∨
        ∃ added ∈ (file set path t).importsAdded, x ∈ added.2 := by
  have hcovers := covers_addImports (RuleSet.asksForIdentifiers_of_load hload) hmodules path t
  refine ⟨?_, ?_, hcovers.bound⟩
  · intro need hneed x hx
    rcases hcovers.resolved need hneed with hbound | ⟨f, hf, hreports⟩
    · exact .inl (hbound x hx)
    · exact .inr ⟨f, (mem_unresolved_file hreports.kind).mpr hf, hreports.kind, hreports.module,
        hreports.missing ▸ hx⟩
  · intro f hf hkind
    exact hcovers.reported f ((mem_unresolved_file hkind).mp hf)

end

/-- A name in place of another, with its import, and a name that is imported where it is used. -/
def palette : Config where
  rules := [⟨"hue", .replace, "red", some "Hue", "", [], some ⟨"theme", ["Hue"]⟩⟩]
  imports := [⟨"gap", "space"⟩]

/-- The rule of that palette, ready to run. -/
def hue : Rule where
  id := "hue"
  kind := .replace
  pattern := ⟨"red", ⟨#[.accept, .take (.char 'd') 0, .take (.char 'e') 1, .take (.char 'r') 2], 3,
    #[[1], [2], [3], []]⟩, []⟩
  replacement := some "Hue"
  description := ""
  appliesTo := []
  requires := some ⟨"theme", ["Hue"]⟩

/-- The palette, ready to run. -/
def paletteRules : RuleSet where
  rules := [hue]
  canonical := ⟨1, []⟩
  usageImports := [⟨"gap", "space"⟩]
  importHosts := []

theorem load_palette : RuleSet.load palette = .ok paletteRules := by
  have hread : Pattern.read "red" = .ok hue.pattern := by
    decide
  have hrule : RuleSet.compileRule [] 0
      ⟨"hue", .replace, "red", some "Hue", "", [], some ⟨"theme", ["Hue"]⟩⟩ = .ok hue := by
    rw [RuleSet.compileRule, hread]
    rfl
  have hrules := RuleSet.compile_single hrule (by decide)
  exact RuleSet.bind_eq_ok.mpr ⟨_, hrules, rfl⟩

/-- One import that cannot be edited, and none of the other module. -/
def wholeImport : Text := "import * as t from 'theme'\nred(gap)".toList

theorem settle_wholeImport : settle paletteRules (Path.extension ⟨"a.ts"⟩) wholeImport =
    ("import * as t from 'theme'\nHue(gap)".toList, [hue]) := by
  decide +kernel

theorem needs_wholeImport :
    needs paletteRules ⟨"a.ts"⟩ wholeImport = [("space", ["gap"]), ("theme", ["Hue"])] := by
  rw [needs, settle_wholeImport]
  decide +kernel

/-- The text that import becomes: one name is added, the other is not. -/
def wholeImportFixed : Text :=
  "import * as t from 'theme'\nimport { gap } from 'space'\nHue(gap)".toList

theorem addImports_wholeImport :
    addImports paletteRules ⟨"a.ts"⟩ (settle paletteRules (Path.extension ⟨"a.ts"⟩) wholeImport).1
        (needs paletteRules ⟨"a.ts"⟩ wholeImport) =
      ⟨wholeImportFixed, [("space", ["gap"])],
        [unresolvedFinding ⟨"a.ts"⟩ wholeImportFixed ["Hue"] ⟨"theme", 1, .noBraces⟩ "theme"]⟩ := by
  have hspace : ensure paletteRules.importHosts
      "import * as t from 'theme'\nHue(gap)".toList "space" ["gap"] = .ok wholeImportFixed := by
    decide +kernel
  have htheme : ensure paletteRules.importHosts wholeImportFixed "theme" ["Hue"] =
      .error ⟨"theme", 1, .noBraces⟩ := by
    decide +kernel
  rw [needs_wholeImport, settle_wholeImport, addImports, List.foldl_cons,
    addImport_of_ok hspace (by decide), List.foldl_cons, addImport_of_error htheme]
  rfl

theorem importsAdded_wholeImport :
    (file paletteRules ⟨"a.ts"⟩ wholeImport).importsAdded = [("space", ["gap"])] := by
  rw [importsAdded_file, addImports_wholeImport]

/-- Of two names that are to be imported one is added and the other reported. -/
theorem bound_or_reported_wholeImport :
    RuleSet.load palette = .ok paletteRules ∧
      (∀ x, x ∈ boundNames (file paletteRules ⟨"a.ts"⟩ wholeImport).newText ↔ x = "t" ∨ x = "gap") ∧
      ∃ f ∈ (file paletteRules ⟨"a.ts"⟩ wholeImport).unresolved,
        f.kind = .unsupportedImportShape ∧ f.matched = "theme" ∧ "Hue" ∈ f.missing := by
  obtain ⟨hneeds, -, hbound⟩ :=
    bound_or_reported load_palette (by decide) ⟨"a.ts"⟩ wholeImport
  have hsettled : boundNames (settle paletteRules (Path.extension ⟨"a.ts"⟩) wholeImport).1 =
      ["t"] := by
    rw [settle_wholeImport]
    decide +kernel
  simp only [hsettled, importsAdded_wholeImport, List.mem_singleton, exists_eq_left] at hbound
  rw [needs_wholeImport] at hneeds
  refine ⟨load_palette, hbound, ?_⟩
  rcases hneeds ("theme", ["Hue"]) (by simp) "Hue" (by simp) with hhue | hreported
  · rw [hbound] at hhue
    simp at hhue
  · exact hreported

end Fix

end DesignTokens
