import DesignTokens.Proofs.Fix.Imports
import DesignTokens.Proofs.Fix.Usage

/-! # Imports that stay unresolved

A finding of missing names says that a module is imported in shapes that cannot be edited. No later
step changes that, and a fixed text uses the names that it used before its imports were added. So
when rules and canonical spellings leave the fixed text as it is, fixing it once more reports the
names of that module that are still asked for. A name that only a rule asked for is not among them:
the rule has done its work and does not match any more.

## Main definitions

* `Fix.Open` - whether a name is still to be imported from a module into a fixed text
* `Fix.ReportedOnce` - whether names are reported by the first fixing of a text only

## Main results

* `Fix.blocked_of_mem_unresolved` - what is reported is blocked in the fixed text
* `Fix.exists_reports_of_blocked` - what is blocked is reported
* `Fix.reported_again` - what fixing once more reports of a module that was reported
* `Fix.not_reported_again` - names that are reported only once
-/

namespace DesignTokens.Fix

open Text Import

/-! ### Steps that fail -/

section

variable {set : RuleSet} {file : Path} {needed : ByName Names} {state : Imports}
  {need : String × Names} {module : String} {symbols : Names}

/-- The needs of a text: identifiers from modules whose names can stand between quotes. -/
def Valid (needed : ByName Names) : Prop :=
  ∀ need ∈ needed, Quotable need.1 ∧ need.2 ≠ [] ∧ ∀ x ∈ need.2, isIdentifier x.toList = true

theorem valid_needs {path : Path} {t : Text} (hset : set.AsksForIdentifiers)
    (hmodules : ∀ module ∈ set.modules, Quotable module) : Valid (needs set path t) := by
  intro need hneed
  obtain ⟨hmodule, hsymbols⟩ := valid_of_mem_needs hset need hneed
  exact ⟨hmodules need.1 hmodule, ne_nil_of_mem_requirements hneed, hsymbols⟩

/-- A step reports its names and leaves the text as it is, or the text grows and what is reported
stays as it is. -/
theorem addImport_cases (set : RuleSet) (file : Path) (state : Imports) (hmodule : Quotable need.1)
    (hsymbols : ∀ x ∈ need.2, isIdentifier x.toList = true) :
    (∃ e, ensure set.importHosts state.text need.1 need.2 = .error e ∧
      addImport set file state need = { state with
        unresolved := state.unresolved ++ [unresolvedFinding file state.text need.2 e need.1] }) ∨
    Growth state.text (addImport set file state need).text need.1 need.2 ∧
      (addImport set file state need).unresolved = state.unresolved := by
  cases hensure : ensure set.importHosts state.text need.1 need.2 with
  | error e => exact .inl ⟨e, rfl, addImport_of_error hensure⟩
  | ok next =>
    have hgrowth := growth_of_ensure hmodule hsymbols hensure
    have hstep : (addImport set file state need).text = next ∧
        (addImport set file state need).unresolved = state.unresolved := by
      simp [addImport, hensure]
    exact .inr ⟨hstep.1 ▸ hgrowth, hstep.2⟩

/-- A property of texts that growing preserves holds after all steps. -/
theorem foldl_addImport_induction {P : Text → Prop}
    (hgrowth : ∀ content new, ∀ need ∈ needed,
      Growth content new need.1 need.2 → P content → P new)
    (hvalid : Valid needed) (h : P state.text) :
    P (needed.foldl (addImport set file) state).text := by
  induction needed generalizing state with
  | nil => exact h
  | cons need needed ih =>
    obtain ⟨hmodule, -, hsymbols⟩ := hvalid need List.mem_cons_self
    refine ih (fun u v n hn => hgrowth u v n (List.mem_cons_of_mem need hn))
      (fun n hn => hvalid n (List.mem_cons_of_mem need hn)) ?_
    rcases addImport_cases set file state hmodule hsymbols with
      ⟨e, -, hstep⟩ | ⟨hstep, -⟩
    · rw [hstep]
      exact h
    · exact hgrowth _ _ need List.mem_cons_self hstep h

/-- What is reported is blocked when all steps are done. -/
theorem blocked_of_mem_foldl (hvalid : Valid needed)
    (h : ∀ f ∈ state.unresolved, Blocked state.text f.matched) :
    ∀ f ∈ (needed.foldl (addImport set file) state).unresolved,
      Blocked (needed.foldl (addImport set file) state).text f.matched := by
  induction needed generalizing state with
  | nil => exact h
  | cons need needed ih =>
    obtain ⟨hmodule, hne, hsymbols⟩ := hvalid need List.mem_cons_self
    refine ih (fun n hn => hvalid n (List.mem_cons_of_mem need hn)) ?_
    -- The step reports its module, which is blocked then, or lets the imports grow.
    rcases addImport_cases set file state hmodule hsymbols with
      ⟨e, herror, hstep⟩ | ⟨hgrowth, hsame⟩
    · rw [hstep]
      intro f hf
      rcases List.mem_append.mp hf with hf | hf
      · exact h f hf
      · rw [List.mem_singleton.mp hf]
        exact (blocked_iff_ensure set.importHosts hne hsymbols).mpr ⟨e, herror⟩
    · rw [hsame]
      exact fun f hf => (h f hf).growth hgrowth

/-- What is reported stays so. -/
theorem mem_unresolved_foldl {f : Finding} (hvalid : Valid needed) (h : f ∈ state.unresolved) :
    f ∈ (needed.foldl (addImport set file) state).unresolved := by
  induction needed generalizing state with
  | nil => exact h
  | cons need needed ih =>
    obtain ⟨hmodule, -, hsymbols⟩ := hvalid need List.mem_cons_self
    refine ih (fun n hn => hvalid n (List.mem_cons_of_mem need hn)) ?_
    rcases addImport_cases set file state hmodule hsymbols with
      ⟨e, -, hstep⟩ | ⟨-, hsame⟩
    · rw [hstep]
      exact List.mem_append_left _ h
    · rwa [hsame]

/-- Names wanted from a module that is blocked are reported. -/
theorem exists_reports_of_blocked (file : Path) (hvalid : Valid needed)
    (hblocked : Blocked state.text module)
    (hneed : (module, symbols) ∈ needed) :
    ∃ f ∈ (needed.foldl (addImport set file) state).unresolved, f.Reports (module, symbols) := by
  induction needed generalizing state with
  | nil => cases hneed
  | cons need needed ih =>
    have hmore : Valid needed := fun n hn => hvalid n (List.mem_cons_of_mem need hn)
    obtain ⟨hmodule, hne, hsymbols⟩ := hvalid need List.mem_cons_self
    rcases List.mem_cons.mp hneed with rfl | hneed
    · obtain ⟨e, herror⟩ := (blocked_iff_ensure set.importHosts hne hsymbols).mp hblocked
      have hreports := reports_unresolvedFinding file state.text e hsymbols
      rw [List.foldl_cons]
      refine ⟨_, mem_unresolved_foldl hmore ?_, hreports⟩
      rw [addImport_of_error herror]
      exact List.mem_append_right _ List.mem_cons_self
    · refine ih hmore ?_ hneed
      -- Whatever the step does, the module stays blocked.
      rcases addImport_cases set file state hmodule hsymbols with
        ⟨e, -, hstep⟩ | ⟨hgrowth, -⟩
      · rw [hstep]
        exact hblocked
      · exact hblocked.growth hgrowth

end

/-! ### Fixing once more -/

section

variable {config : Config} {set : RuleSet} {path : Path} {t : Text} {module x : String}

/-- What is asked for depends on the text by what is used in it. -/
theorem Asks.congr {t' : Text} {fired : List Rule}
    (h : ∀ usage, isUsed usage t = true → isUsed usage t' = true)
    (hasks : Asks set t fired module x) :
    Asks set t' fired module x := by
  cases hasks with
  | required rule r hfired hrequires hmodule hx =>
    exact .required rule r hfired hrequires hmodule hx
  | used usage husage hused hmodule hx => exact .used usage husage (h usage hused) hmodule hx

theorem text_file (set : RuleSet) (path : Path) (t : Text) : (file set path t).newText =
    (addImports set path (settle set path.extension t).1 (needs set path t)).text := rfl

/-- A fixed text uses the names that the settled text uses. -/
theorem isUsed_newText (hset : set.AsksForIdentifiers)
    (hmodules : ∀ module ∈ set.modules, Quotable module) (usage : UsageImport) :
    isUsed usage (file set path t).newText = isUsed usage (settle set path.extension t).1 := by
  rw [text_file]
  refine foldl_addImport_induction
    (P := fun u => isUsed usage u = isUsed usage (settle set path.extension t).1) ?_
    (valid_needs hset hmodules) rfl
  intro content new need _ hgrowth heq
  rw [isUsed_growth hgrowth, heq]

/-- What is reported is blocked in the fixed text. -/
theorem blocked_of_mem_unresolved (hset : set.AsksForIdentifiers)
    (hmodules : ∀ module ∈ set.modules, Quotable module) {f : Finding}
    (hf : f ∈ (file set path t).unresolved) (hkind : f.kind = .unsupportedImportShape) :
    Blocked (file set path t).newText f.matched :=
  blocked_of_mem_foldl (valid_needs hset hmodules) (by simp) f ((mem_unresolved_file hkind).mp hf)

/-- A name is still to be imported from a module into a fixed text: it is used in the settled text
or required by a rule that matches once more, and the fixed text neither binds nor declares it. -/
structure Open (set : RuleSet) (path : Path) (t : Text) (module x : String) : Prop where
  asks : Asks set (settle set path.extension t).1
    (settle set path.extension (file set path t).newText).2 module x
  unbound : x ∉ boundNames (file set path t).newText
  undeclared : x ∉ Declaration.declaredNames (file set path t).newText

/-- The names that fixing once more is to import are those that are open. -/
theorem lists_needs_newText_iff (hset : set.AsksForIdentifiers)
    (hmodules : ∀ module ∈ set.modules, Quotable module)
    (hrest : (settle set path.extension (file set path t).newText).1 = (file set path t).newText) :
    Lists (needs set path (file set path t).newText) module x ↔ Open set path t module x := by
  have hused : ∀ usage, isUsed usage (file set path t).newText =
      isUsed usage (settle set path.extension t).1 := isUsed_newText hset hmodules
  rw [needs, lists_requirements_iff, hrest]
  constructor
  · rintro ⟨hasks, hbound, hdeclared⟩
    exact ⟨hasks.congr fun usage h => (hused usage).symm.trans h, hbound, hdeclared⟩
  · rintro ⟨hasks, hbound, hdeclared⟩
    exact ⟨hasks.congr fun usage h => (hused usage).trans h, hbound, hdeclared⟩

/-- When a module was reported and rules and canonical spellings leave the fixed text as it is,
fixing it once more reports the module as long as one of its names is open, and it reports exactly
the open names. -/
theorem reported_again (hload : RuleSet.load config = .ok set)
    (hmodules : ∀ module ∈ set.modules, Quotable module)
    (hrest : (settle set path.extension (file set path t).newText).1 = (file set path t).newText)
    {f : Finding} (hf : f ∈ (file set path t).unresolved)
    (hkind : f.kind = .unsupportedImportShape) :
    ((∃ x, Open set path t f.matched x) →
      ∃ f' ∈ (file set path (file set path t).newText).unresolved,
        f'.kind = .unsupportedImportShape ∧ f'.matched = f.matched) ∧
    ∀ f' ∈ (file set path (file set path t).newText).unresolved,
      f'.kind = .unsupportedImportShape → f'.matched = f.matched →
        ∀ x, x ∈ f'.missing ↔ Open set path t f.matched x := by
  have hset := RuleSet.asksForIdentifiers_of_load hload
  -- What is needed again is what the first run left open.
  have hopen : ∀ x, Lists (needs set path (file set path t).newText) f.matched x ↔
      Open set path t f.matched x :=
    fun x => lists_needs_newText_iff hset hmodules hrest
  constructor
  · rintro ⟨x, hx⟩
    obtain ⟨symbols, hneed, -⟩ := (hopen x).mpr hx
    have hblocked : Blocked (Imports.mk (settle set path.extension (file set path t).newText).1
        [] []).text f.matched := by
      rw [hrest]
      exact blocked_of_mem_unresolved hset hmodules hf hkind
    obtain ⟨f', hf', hreports⟩ :=
      exists_reports_of_blocked path (valid_needs hset hmodules) hblocked hneed
    exact ⟨f', (mem_unresolved_file hreports.kind).mpr hf', hreports.kind, hreports.module⟩
  · intro f' hf' hkind' hmatched x
    obtain ⟨need, hneed, hreports⟩ := (covers_addImports hset hmodules path _).reported f'
      ((mem_unresolved_file hkind').mp hf')
    obtain ⟨module, symbols⟩ := need
    obtain rfl : module = f.matched := hreports.module.symm.trans hmatched
    rw [hreports.missing, ← hopen]
    constructor
    · exact fun hx => ⟨symbols, hneed, hx⟩
    · rintro ⟨symbols', hneed', hx⟩
      rwa [eq_of_mem_requirements hneed hneed']

end

/-- A single import, which cannot be edited, of a name that is used. -/
def blockedImport : Text := "import * as s from 'space'\ngap".toList

/-- What is reported of that import: the name that is used is missing. -/
def blockedFinding : Finding :=
  unresolvedFinding ⟨"a.ts"⟩ blockedImport ["gap"] ⟨"space", 1, .noBraces⟩ "space"

theorem settle_blockedImport :
    settle paletteRules (Path.extension ⟨"a.ts"⟩) blockedImport = (blockedImport, []) := by
  decide +kernel

theorem addImports_blockedImport :
    addImports paletteRules ⟨"a.ts"⟩ (settle paletteRules (Path.extension ⟨"a.ts"⟩) blockedImport).1
        (needs paletteRules ⟨"a.ts"⟩ blockedImport) = ⟨blockedImport, [], [blockedFinding]⟩ := by
  have hneeds : needs paletteRules ⟨"a.ts"⟩ blockedImport = [("space", ["gap"])] := by
    rw [needs, settle_blockedImport]
    decide +kernel
  have hspace : ensure paletteRules.importHosts blockedImport "space" ["gap"] =
      .error ⟨"space", 1, .noBraces⟩ := by
    decide +kernel
  rw [hneeds, settle_blockedImport, addImports, List.foldl_cons, addImport_of_error hspace]
  rfl

theorem newText_blockedImport :
    (file paletteRules ⟨"a.ts"⟩ blockedImport).newText = blockedImport := by
  rw [text_file, addImports_blockedImport]

/-- A name that is used is reported as long as its import cannot be edited. -/
theorem reported_again_blockedImport :
    ∃ f ∈ (file paletteRules ⟨"a.ts"⟩ (file paletteRules ⟨"a.ts"⟩
      blockedImport).newText).unresolved,
      f.kind = .unsupportedImportShape ∧ f.matched = "space" ∧ "gap" ∈ f.missing := by
  have hmem : blockedFinding ∈ (file paletteRules ⟨"a.ts"⟩ blockedImport).unresolved := by
    rw [mem_unresolved_file rfl, addImports_blockedImport]
    exact List.mem_singleton_self _
  have hrest : (settle paletteRules (Path.extension ⟨"a.ts"⟩)
      (file paletteRules ⟨"a.ts"⟩ blockedImport).newText).1 =
        (file paletteRules ⟨"a.ts"⟩ blockedImport).newText := by
    rw [newText_blockedImport, settle_blockedImport]
  have hopen : Open paletteRules ⟨"a.ts"⟩ blockedImport "space" "gap" := by
    refine ⟨.used ⟨"gap", "space"⟩ (by decide) ?_ rfl rfl, ?_, ?_⟩
    · rw [settle_blockedImport]
      decide +kernel
    · have hbound : boundNames blockedImport = ["s"] := by
        decide +kernel
      rw [newText_blockedImport, hbound]
      decide
    · have hdeclared : Declaration.declaredNames blockedImport = [] := by
        decide
      rw [newText_blockedImport, hdeclared]
      decide
  obtain ⟨hexists, hlists⟩ := reported_again load_palette (by decide) hrest hmem rfl
  obtain ⟨f, hf, hkind, hmatched⟩ := hexists ⟨"gap", hopen⟩
  exact ⟨f, hf, hkind, hmatched, (hlists f hf hkind hmatched "gap").mpr hopen⟩

/-! ### What is reported only once -/

/-- Names of a module are reported as missing, and when the fixed text is fixed once more the module
is not reported. -/
def ReportedOnce (config : Config) (path : Path) (t : Text) (need : String × Names) : Prop :=
  ∃ set, RuleSet.load config = .ok set ∧ (∃ f ∈ (file set path t).unresolved, f.Reports need) ∧
    ∀ f ∈ (file set path (file set path t).newText).unresolved,
      f.kind = .unsupportedImportShape → f.matched ≠ need.1

/-- A rule that completes a further match of its own. -/
def cutting : Config where
  rules := [⟨"cut", .replace, "ab", some "", "", [], none⟩]
  imports := [⟨"gap", "space"⟩]

/-- The rule of that configuration, ready to run. -/
def cut : Rule where
  id := "cut"
  kind := .replace
  pattern := ⟨"ab", ⟨#[.accept, .take (.char 'b') 0, .take (.char 'a') 1], 2,
    #[[1], [2], []]⟩, []⟩
  replacement := some ""
  description := ""
  appliesTo := []
  requires := none

/-- That configuration, ready to run. -/
def cuttingRules : RuleSet where
  rules := [cut]
  canonical := ⟨1, []⟩
  usageImports := [⟨"gap", "space"⟩]
  importHosts := []

theorem load_cutting : RuleSet.load cutting = .ok cuttingRules := by
  have hread : Pattern.read "ab" = .ok cut.pattern := by
    decide
  have hrule : RuleSet.compileRule [] 0 ⟨"cut", .replace, "ab", some "", "", [], none⟩ =
      .ok cut := by
    rw [RuleSet.compileRule, hread]
    rfl
  have hrules := RuleSet.compile_single hrule (by decide)
  exact RuleSet.bind_eq_ok.mpr ⟨_, hrules, rfl⟩

/-- An import that the rule makes one of plain names, but only when it is run twice. -/
def cutImport : Text := "import { aabb c } from 'space'\ngap".toList

/-- That import after one run. -/
def cutImportOnce : Text := "import { ab c } from 'space'\ngap".toList

/-- That import after two runs, before names are added. -/
def cutImportTwice : Text := "import {  c } from 'space'\ngap".toList

theorem addImports_cutImport :
    addImports cuttingRules ⟨"a.ts"⟩ (settle cuttingRules (Path.extension ⟨"a.ts"⟩) cutImport).1
        (needs cuttingRules ⟨"a.ts"⟩ cutImport) =
      ⟨cutImportOnce, [],
        [unresolvedFinding ⟨"a.ts"⟩ cutImportOnce ["gap"] ⟨"space", 1, .notPlain⟩ "space"]⟩ := by
  have hsettle : settle cuttingRules (Path.extension ⟨"a.ts"⟩) cutImport =
      (cutImportOnce, [cut]) := by
    decide +kernel
  have hneeds : needs cuttingRules ⟨"a.ts"⟩ cutImport = [("space", ["gap"])] := by
    rw [needs, hsettle]
    decide +kernel
  have hspace : ensure cuttingRules.importHosts cutImportOnce "space" ["gap"] =
      .error ⟨"space", 1, .notPlain⟩ := by
    decide +kernel
  rw [hneeds, hsettle, addImports, List.foldl_cons, addImport_of_error hspace]
  rfl

theorem unresolved_cutImportOnce :
    (addImports cuttingRules ⟨"a.ts"⟩
      (settle cuttingRules (Path.extension ⟨"a.ts"⟩) cutImportOnce).1
        (needs cuttingRules ⟨"a.ts"⟩ cutImportOnce)).unresolved = [] := by
  have hsettle : settle cuttingRules (Path.extension ⟨"a.ts"⟩) cutImportOnce =
      (cutImportTwice, [cut]) := by
    decide +kernel
  have hneeds : needs cuttingRules ⟨"a.ts"⟩ cutImportOnce = [("space", ["gap"])] := by
    rw [needs, hsettle]
    decide +kernel
  have hspace : ensure cuttingRules.importHosts cutImportTwice "space" ["gap"] =
      .ok "import { c, gap } from 'space'\ngap".toList := by
    simp only [ensure, merge, Import.insert, sortSymbols_eq_insertionSort]
    decide +kernel
  rw [hneeds, hsettle, addImports, List.foldl_cons, addImport_of_ok hspace (by decide)]
  rfl

theorem unresolved_wholeImportFixed :
    (addImports paletteRules ⟨"a.ts"⟩
      (settle paletteRules (Path.extension ⟨"a.ts"⟩) wholeImportFixed).1
        (needs paletteRules ⟨"a.ts"⟩ wholeImportFixed)).unresolved = [] := by
  have hsettle : settle paletteRules (Path.extension ⟨"a.ts"⟩) wholeImportFixed =
      (wholeImportFixed, []) := by
    decide +kernel
  have hneeds : needs paletteRules ⟨"a.ts"⟩ wholeImportFixed = [] := by
    rw [needs, hsettle]
    decide +kernel
  rw [hneeds, addImports]
  rfl

/-- Two modules, the name of one of which goes on with a quote after the name of the other. -/
def quoting : Config where
  imports := [⟨"Hue", "a"⟩, ⟨"gap", "a'b"⟩]

/-- That configuration, ready to run. -/
def quotingRules : RuleSet where
  rules := []
  canonical := ⟨1, []⟩
  usageImports := [⟨"Hue", "a"⟩, ⟨"gap", "a'b"⟩]
  importHosts := []

/-- An import of one of them that cannot be edited. -/
def quotedImport : Text := "import * as t from 'a'\nHue(gap)".toList

/-- That import, with an import of the other module that is read as one of the same. -/
def quotedImportFixed : Text :=
  "import * as t from 'a'\nimport { gap } from 'a'b'\nHue(gap)".toList

theorem addImports_quotedImport :
    addImports quotingRules ⟨"a.ts"⟩ (settle quotingRules (Path.extension ⟨"a.ts"⟩) quotedImport).1
        (needs quotingRules ⟨"a.ts"⟩ quotedImport) =
      ⟨quotedImportFixed, [("a'b", ["gap"])],
        [unresolvedFinding ⟨"a.ts"⟩ quotedImport ["Hue"] ⟨"a", 1, .noBraces⟩ "a"]⟩ := by
  have hsettle : settle quotingRules (Path.extension ⟨"a.ts"⟩) quotedImport =
      (quotedImport, []) := by
    decide +kernel
  have hneeds : needs quotingRules ⟨"a.ts"⟩ quotedImport = [("a", ["Hue"]), ("a'b", ["gap"])] := by
    rw [needs, hsettle]
    decide +kernel
  have hfirst : ensure quotingRules.importHosts quotedImport "a" ["Hue"] =
      .error ⟨"a", 1, .noBraces⟩ := by
    decide +kernel
  have hsecond : ensure quotingRules.importHosts quotedImport "a'b" ["gap"] =
      .ok quotedImportFixed := by
    decide +kernel
  rw [hneeds, hsettle, addImports, List.foldl_cons, addImport_of_error hfirst, List.foldl_cons,
    addImport_of_ok hsecond (by decide)]
  rfl

theorem unresolved_quotedImportFixed :
    (addImports quotingRules ⟨"a.ts"⟩
      (settle quotingRules (Path.extension ⟨"a.ts"⟩) quotedImportFixed).1
        (needs quotingRules ⟨"a.ts"⟩ quotedImportFixed)).unresolved = [] := by
  have hsettle : settle quotingRules (Path.extension ⟨"a.ts"⟩) quotedImportFixed =
      (quotedImportFixed, []) := by
    decide +kernel
  have hneeds : needs quotingRules ⟨"a.ts"⟩ quotedImportFixed = [("a", ["Hue"])] := by
    rw [needs, hsettle]
    decide +kernel
  have hfirst : ensure quotingRules.importHosts quotedImportFixed "a" ["Hue"] =
      .ok "import * as t from 'a'\nimport { gap, Hue } from 'a'b'\nHue(gap)".toList := by
    simp only [ensure, merge, Import.insert, sortSymbols_eq_insertionSort]
    decide +kernel
  rw [hneeds, hsettle, addImports, List.foldl_cons, addImport_of_ok hfirst (by decide)]
  rfl

theorem reportedOnce_of_addImports {config : Config} {set : RuleSet} {path : Path} {t fixed : Text}
    {added : ByName Names} {need : String × Names} {u : Text} {e : Import.Error}
    (hload : RuleSet.load config = .ok set) (hneed : ∀ x ∈ need.2, isIdentifier x.toList = true)
    (hfirst : addImports set path (settle set path.extension t).1 (needs set path t) =
      ⟨fixed, added, [unresolvedFinding path u need.2 e need.1]⟩)
    (hsecond : (addImports set path (settle set path.extension fixed).1
      (needs set path fixed)).unresolved = []) : ReportedOnce config path t need := by
  refine ⟨set, hload, ⟨_, ?_, reports_unresolvedFinding path u e hneed⟩, ?_⟩
  · rw [mem_unresolved_file rfl, hfirst]
    exact List.mem_singleton_self _
  · intro f hf hkind
    rw [mem_unresolved_file hkind, text_file, hfirst, hsecond] at hf
    cases hf

/-- A name that a rule asked for is not reported a second time: the rule does not match what it has
written. Nor is a name whose import a rule has made one that can be edited, or one whose module is
not blocked any more because the name of another module has a quote in it. -/
theorem not_reported_again : ReportedOnce palette ⟨"a.ts"⟩ wholeImport ("theme", ["Hue"]) ∧
    ReportedOnce cutting ⟨"a.ts"⟩ cutImport ("space", ["gap"]) ∧
    ReportedOnce quoting ⟨"a.ts"⟩ quotedImport ("a", ["Hue"]) := by
  have hquoting : RuleSet.load quoting = .ok quotingRules := rfl
  refine ⟨?_, ?_, ?_⟩
  · exact reportedOnce_of_addImports load_palette (by decide) addImports_wholeImport
      unresolved_wholeImportFixed
  · exact reportedOnce_of_addImports load_cutting (by decide) addImports_cutImport
      unresolved_cutImportOnce
  · exact reportedOnce_of_addImports hquoting (by decide) addImports_quotedImport
      unresolved_quotedImportFixed

end DesignTokens.Fix
