import DesignTokens.Proofs.Fix.Unresolved
import DesignTokens.Proofs.Import.Starts
import DesignTokens.Proofs.Scan.Report

/-! # Lines of findings

What stays unresolved when a text is fixed points into the fixed text. Findings of rules are made of
that text. A finding of an import was made of a text to which names of other modules were added
later; but the import that could not be edited starts on the line that it started on, and the line
reads as it did.

## Main definitions

* `Fix.Shows` - a finding has the number and the text of a line
* `Fix.Anchored` - every finding so far is of a line where an import starts

## Main results

* `Fix.anchored_foldl` - findings of imports stay where they are when names are added
* `Fix.shows_of_mem_unresolved` - every finding shows a line of the fixed text
-/

namespace DesignTokens.Fix

open Text Import

/-- A finding shows a line of a text: it has the number of the line, counted from one, and the text
of the line without the blanks around it. -/
structure Shows (f : Finding) (t line : Text) : Prop where
  positive : 1 ≤ f.line
  within : f.line ≤ (lines t).length
  shown : (lines t)[f.line - 1]? = some line
  snippet : f.snippet = String.ofList (trim line)

/-- Every finding so far is of a line where an import of its module starts. -/
def Anchored (state : Imports) : Prop :=
  ∀ f ∈ state.unresolved, Starts state.text f.matched f.line f.snippet.toList

section

variable {set : RuleSet} {file : Path} {needed : ByName Names} {state : Imports}
  {need : String × Names} {rules : List Rule} {t : Text} {f : Finding}

theorem Shows.of_getElem? {line : Text} (hpositive : 1 ≤ f.line)
    (hline : (lines t)[f.line - 1]? = some line)
    (hsnippet : f.snippet = String.ofList (trim line)) :
    Shows f t line := by
  have hlt := (List.getElem?_eq_some_iff.mp hline).1
  exact ⟨hpositive, by omega, hline, hsnippet⟩

/-! ### Findings of imports -/

/-- Names that cannot be added are a finding of the line where an import of the module starts. -/
theorem starts_unresolvedFinding {e : Import.Error} (hne : need.2 ≠ [])
    (hsymbols : ∀ x ∈ need.2, isIdentifier x.toList = true)
    (herror : ensure set.importHosts t need.1 need.2 = .error e) :
    Starts t need.1 e.line (unresolvedFinding file t need.2 e need.1).snippet.toList := by
  have hslot := slot_eq_error_of_ensure hne hsymbols herror
  obtain ⟨line, hline, hstarts⟩ := starts_of_findBlock (findBlock_of_slot_eq_error hslot)
  rwa [unresolvedFinding, hline, Option.getD_some, String.toList_ofList]

/-- Findings of imports stay where they are when names are added. -/
theorem anchored_foldl (hvalid : Valid needed) (h : Anchored state) :
    Anchored (needed.foldl (addImport set file) state) := by
  -- Each step adds a finding and leaves the text alone, or adds names and no finding.
  induction needed generalizing state with
  | nil => exact h
  | cons need needed ih =>
    obtain ⟨hmodule, hne, hsymbols⟩ := hvalid need List.mem_cons_self
    refine ih (fun n hn => hvalid n (List.mem_cons_of_mem need hn)) ?_
    rcases addImport_cases set file state hmodule hsymbols with
      ⟨e, herror, hstep⟩ | ⟨hgrowth, hsame⟩
    · rw [hstep]
      intro f hf
      rcases List.mem_append.mp hf with hf | hf
      · exact h f hf
      · rw [List.mem_singleton.mp hf]
        exact starts_unresolvedFinding hne hsymbols herror
    · intro f hf
      rw [hsame] at hf
      exact (h f hf).growth hgrowth

/-! ### Findings of rules -/

/-- A finding of a scan shows the line that it was made of. -/
theorem shows_of_mem_withRules (h : f ∈ Scan.withRules file t rules) :
    f.kind = .detection ∧ ∃ line, Shows f t line := by
  rw [Scan.withRules, Scan.linesFrom_eq_flatMap, List.mem_flatMap] at h
  obtain ⟨⟨line, number⟩, hline, hf⟩ := h
  obtain ⟨rule, -, hfinding⟩ := List.mem_filterMap.mp hf
  obtain ⟨hpositive, hget⟩ := List.mk_mem_zipIdx_iff_le_and_getElem?_sub.mp hline
  rw [Scan.findingOn?] at hfinding
  split at hfinding
  · cases hfinding
  · split at hfinding
    · cases hfinding
    · cases hfinding
      exact ⟨rfl, line, .of_getElem? hpositive hget rfl⟩

theorem pairwise_byLine (findings : List Finding) :
    (byLine findings).Pairwise fun a b => a.line ≤ b.line := by
  refine (List.pairwise_mergeSort ?_ ?_ findings).imp of_decide_eq_true
  · intro a b c
    simp only [decide_eq_true_eq]
    omega
  · intro a b
    simp only [Bool.or_eq_true, decide_eq_true_eq]
    omega

end

/-- Every finding of what stays unresolved shows a line of the fixed text. The line of a finding of
an import starts with the word for it, and a statement of the module starts there. The findings are
in the order of their lines. -/
theorem shows_of_mem_unresolved {config : Config} {set : RuleSet}
    (hload : RuleSet.load config = .ok set) (hmodules : ∀ module ∈ set.modules, Quotable module)
    (path : Path) (t : Text) :
    (∀ f ∈ (file set path t).unresolved, ∃ line, Shows f (file set path t).newText line ∧
      (f.kind = .unsupportedImportShape → importWord <+: trim line ∧
        ∃ p ∈ statements (file set path t).newText, p.statement.module = f.matched.toList ∧
          lineAt (file set path t).newText p.span.start = f.line)) ∧
      (file set path t).unresolved.Pairwise fun a b => a.line ≤ b.line := by
  have hset := RuleSet.asksForIdentifiers_of_load hload
  have hanchored : Anchored (addImports set path (settle set path.extension t).1
      (needs set path t)) :=
    anchored_foldl (valid_needs hset hmodules) (by simp [Anchored])
  refine ⟨fun f hf => ?_, pairwise_byLine _⟩
  simp only [file, byLine, List.mem_mergeSort, List.mem_append] at hf
  -- The finding is on an import that is kept as it is, or on a line that a rule found.
  rcases hf with himport | hscan
  · obtain ⟨line, hline, hpositive, hsnippet, hword, hstatement⟩ :=
      (hanchored f himport).exists_line
    refine ⟨line, .of_getElem? hpositive hline ?_, fun _ => ⟨hword, hstatement⟩⟩
    rw [← hsnippet, String.ofList_toList]
  · obtain ⟨hkind, line, hshows⟩ := shows_of_mem_withRules hscan
    refine ⟨line, hshows, fun hother => ?_⟩
    rw [hkind] at hother
    cases hother

/-- An import that cannot be edited is shown in a text that got an import of another module. -/
theorem shows_wholeImport :
    ∃ f ∈ (file paletteRules ⟨"a.ts"⟩ wholeImport).unresolved, f.kind = .unsupportedImportShape ∧
      ∃ line, Shows f (file paletteRules ⟨"a.ts"⟩ wholeImport).newText line ∧
        importWord <+: trim line := by
  have hmem : unresolvedFinding ⟨"a.ts"⟩ wholeImportFixed ["Hue"] ⟨"theme", 1, .noBraces⟩ "theme" ∈
      (file paletteRules ⟨"a.ts"⟩ wholeImport).unresolved := by
    rw [mem_unresolved_file rfl, addImports_wholeImport]
    exact List.mem_singleton_self _
  have hshows := (shows_of_mem_unresolved load_palette (by decide) ⟨"a.ts"⟩ wholeImport).1 _ hmem
  obtain ⟨line, hline, hstarts⟩ := hshows
  exact ⟨_, hmem, rfl, line, hline, (hstarts rfl).1⟩

end DesignTokens.Fix
