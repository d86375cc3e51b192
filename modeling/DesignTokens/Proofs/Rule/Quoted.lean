import DesignTokens.Proofs.Pattern.Quote
import DesignTokens.Proofs.Rule.Compilation
import Mathlib.Data.List.Nodup

/-! # The patterns of spellings and names

Loading makes patterns of its own: one for all spellings of the table, and one for each name that
has to be imported where it is used. They stand for what they were made of, whatever characters that
has, so that they are refused for their size only.

## Main definitions

* `RuleSet.HasPattern` - a text that is a pattern
* `CanonicalNames.matcherExpr` - the choice between the spellings of a table

## Main results

* `CanonicalNames.hasPattern_matcher_iff` - the tables whose spellings have a pattern
* `UsageImport.hasPattern_usagePattern_iff` - the names that have a pattern
-/

namespace DesignTokens

open Pattern

namespace RuleSet

/-- A text is a pattern. -/
def HasPattern (source : Text) : Prop :=
  ∃ pattern, Pattern.read (String.ofList source) = .ok pattern

theorem hasPattern_iff_isOk {source : Text} :
    HasPattern source ↔ (Pattern.read (String.ofList source)).isOk = true := by
  rw [HasPattern]
  cases Pattern.read (String.ofList source) <;> simp [Except.isOk, Except.toBool]

theorem hasPattern_iff_fits {source : Text} {e : Expr} {names : List (String × Nat)}
    (h : readExpr source = .ok (e, names)) : HasPattern source ↔ e.fits = true := by
  rw [hasPattern_iff_isOk, isOk_read_eq_fits (by rwa [String.toList_ofList])]

theorem checkPattern_eq_ok_iff {id : String} {source : Text} :
    checkPattern id source = .ok () ↔ HasPattern source := by
  rw [checkPattern, HasPattern]
  cases Pattern.read (String.ofList source) <;> simp

theorem checkMatcher_eq_ok_iff {names : ByName String} :
    checkMatcher names = .ok () ↔ (names ≠ [] → HasPattern (CanonicalNames.matcher names)) := by
  rw [checkMatcher]
  cases names with
  | nil => simp
  | cons entry names => simp [checkPattern_eq_ok_iff]

/-- A table is accepted whose spellings have a pattern and that changes no canonical spelling. -/
theorem checkNames_eq_ok {names : ByName String} (version : Nat)
    (hmatcher : names ≠ [] → HasPattern (CanonicalNames.matcher names))
    (hchain : CanonicalNames.chain? names = none) :
    checkNames version names = .ok ⟨version, names⟩ := by
  rw [checkNames, checkMatcher_eq_ok_iff.mpr hmatcher, checkChain, hchain]
  rfl

end RuleSet

namespace CanonicalNames

variable {names : ByName String}

/-- The choice between the spellings of a table as whole tokens, the longest first. -/
def matcherExpr (names : ByName String) : Expr :=
  .choice ((byLength names).map fun entry =>
    quotedExpr (entry.1.toList.head?.any isTokenChar) (entry.1.toList.getLast?.any isTokenChar)
      entry.1.toList)

theorem perm_byLength (names : ByName String) : (byLength names).Perm names :=
  List.mergeSort_perm names _

theorem map_byLength_ne_nil (hne : names ≠ []) : (byLength names).map (·.1.toList) ≠ [] := by
  intro hnil
  have hperm := perm_byLength names
  rw [List.map_eq_nil_iff.mp hnil] at hperm
  exact hne hperm.nil_eq.symm

theorem readExpr_matcher (hne : names ≠ []) :
    readExpr (matcher names) = .ok (matcherExpr names, []) := by
  have hread := readExpr_intercalate_quoteBetween (fun t => t.head?.any isTokenChar)
    (fun t => t.getLast?.any isTokenChar) (map_byLength_ne_nil hne)
  rwa [List.map_map, List.map_map] at hread

/-- The spellings of a table have a pattern unless they are too large together. -/
theorem hasPattern_matcher_iff (hne : names ≠ []) :
    RuleSet.HasPattern (matcher names) ↔ (matcherExpr names).fits = true :=
  RuleSet.hasPattern_iff_fits (readExpr_matcher hne)

/-- Spellings that begin and end with characters of tokens have a pattern if they take little room
together. -/
theorem hasPattern_matcher_of_words (hne : names ≠ []) (hdistinct : (names.map (·.1)).Nodup)
    (hwords : ∀ entry ∈ names, entry.1.toList.head?.any isTokenChar = true ∧
      entry.1.toList.getLast?.any isTokenChar = true)
    (hsize : 32 * (names.map fun entry => Text.byteSize entry.1.toList).sum + 36 * names.length +
      304 ≤ Layout.limit) : RuleSet.HasPattern (matcher names) := by
  have hperm := perm_byLength names
  have hexpr : matcherExpr names =
      .choice (((byLength names).map (·.1.toList)).map wordExpr) := by
    rw [matcherExpr, List.map_map]
    congr 1
    refine List.map_congr_left fun entry hentry => ?_
    obtain ⟨hfirst, hlast⟩ := hwords entry (hperm.mem_iff.mp hentry)
    rw [hfirst, hlast, quotedExpr_true_true]
    · rfl
    · intro hnil
      rw [hnil] at hfirst
      cases hfirst
  have htexts : ((byLength names).map (·.1.toList)).Nodup := by
    have hnames := hdistinct.map fun a b => String.toList_injective
    rw [List.map_map] at hnames
    exact (hperm.map _).nodup_iff.mpr hnames
  rw [hasPattern_matcher_iff hne, hexpr]
  -- The order of the spellings makes no difference to the room that they take.
  refine Expr.fits_of_takes (takes_choice_words (map_byLength_ne_nil hne) htexts) ?_
  rw [List.map_map, List.length_map, hperm.length_eq, (hperm.map _).sum_nat]
  exact hsize

end CanonicalNames

/-- A name has a pattern unless it is too long. -/
theorem UsageImport.hasPattern_usagePattern_iff {symbol : String} (h : symbol ≠ "") :
    RuleSet.HasPattern (usagePattern symbol) ↔ Text.byteSize symbol.toList ≤ 327671 := by
  rw [usagePattern, RuleSet.hasPattern_iff_isOk, isOk_read_quoteBetween_iff]
  exact fun hnil => h (String.toList_eq_nil_iff.mp hnil)

end DesignTokens
