import DesignTokens.Proofs.Path.Extension
import DesignTokens.Proofs.Pattern.Find
import DesignTokens.Proofs.Rule.Compilation
import DesignTokens.Proofs.Scan.Comments

/-! # What a scan reports

A scan looks at the first match of a rule on a line and at no other. Where a comment starts before
that match, one starts before every match, as none starts earlier; so a rule is reported for a line
just if it has some match there that no comment stands before.

## Main definitions

* `Rule.IsForPath` - whether a rule is for the file with a path
* `Scan.Exposed` - whether a pattern has a match on a line that no comment stands before
* `Scan.exposures` - the lines of a text with the rules exposed on them, in order
* `Scan.Reports` - what a finding says of a rule on a line

## Main results

* `Scan.reports_file` - a scan reports each rule once for each line that it is exposed on
-/

namespace DesignTokens

open Text

/-! ### Rules for a file -/

/-- Whether a rule is for the file with a path: it is for all files, or for those with the extension
that the path has in normal form. -/
def Rule.IsForPath (rule : Rule) (path : Path) : Prop :=
  rule.appliesTo = [] ∨ path.extension ∈ rule.appliesTo

theorem Rule.isFor_extension_iff (rule : Rule) (path : Path) :
    rule.isFor path.extension = true ↔ rule.IsForPath path := by
  rw [isFor, path.normalizeExtension_extension, Bool.or_eq_true, List.isEmpty_iff,
    List.contains_iff_mem, IsForPath]

namespace Scan

variable {path : Path} {rule : Rule} {number : Nat} {line : Text}

/-- A pattern has a match on a line before which no comment starts. -/
def Exposed (pattern : Pattern) (line : Text) : Prop :=
  ∃ u w v, line = u ++ (w ++ v) ∧ pattern.Matches u w v ∧ Uncommented u

/-- What a finding says of a rule on a line: the rule, the line and its number, and the text of the
leftmost match. -/
structure Reports (path : Path) (number : Nat) (line : Text) (rule : Rule) (f : Finding) :
    Prop where
  file : f.file = path
  number : f.line = number
  kind : f.kind = .detection
  ruleId : f.ruleId = some rule.id
  description : f.description = rule.description
  matched : ∃ hit, rule.pattern.find line = some hit ∧ f.matched = String.ofList hit.found ∧
    rule.pattern.Leftmost line hit.lead hit.found hit.rest
  snippet : f.snippet = String.ofList (trim line)

/-- A rule is reported on a line if it is exposed there, and only then. -/
theorem findingOn?_cases (path : Path) (number : Nat) (line : Text)
    (hsourced : rule.pattern.automaton.Sourced)
    (hends : rule.pattern.automaton.Ends) :
    (Exposed rule.pattern line ∧
      ∃ f, findingOn? path number line rule = some f ∧ Reports path number line rule f) ∨
    ¬ Exposed rule.pattern line ∧ findingOn? path number line rule = none := by
  rw [findingOn?]
  cases hfind : rule.pattern.find line with
  | none =>
    refine .inr ⟨?_, rfl⟩
    rintro ⟨u, w, v, hline, hmatches, -⟩
    have hmatch := (Pattern.isMatch_iff hsourced).mpr ⟨u, w, v, hline, hmatches⟩
    rw [Pattern.isMatch, hfind] at hmatch
    cases hmatch
  | some hit =>
    have hleftmost := Pattern.leftmost_of_find hsourced hends hfind
    have hcommented : isCommented line hit.offset = false ↔ Uncommented hit.lead := by
      conv_lhs => rw [hleftmost.text]
      exact isCommented_append _ _
    by_cases huncommented : Uncommented hit.lead
    · refine .inl ⟨⟨_, _, _, hleftmost.text, hleftmost.isMatch, huncommented⟩, _,
        if_neg (by simp [hcommented.mpr huncommented]), ?_⟩
      exact ⟨rfl, rfl, rfl, rfl, rfl, ⟨hit, hfind, rfl, hleftmost⟩, rfl⟩
    · refine .inr ⟨?_, if_pos ?_⟩
      · -- The first match starts no later than any other, so what comments it comments all.
        rintro ⟨u, w, v, hline, hmatches, hu⟩
        have hlead : hit.lead <+: line := hleftmost.text ▸ List.prefix_append _ _
        have hother : u <+: line := hline ▸ List.prefix_append _ _
        exact huncommented (hu.of_prefix
          (List.prefix_of_prefix_length_le hlead hother (hleftmost.first u w v hline hmatches)))
      · rw [← Bool.not_eq_false]
        exact fun h => huncommented (hcommented.mp h)

open Classical in
/-- The lines of a text with their numbers, counted from one, and on each line the detecting rules
for a path that are exposed there, in order. -/
noncomputable def exposures (set : RuleSet) (path : Path) (t : Text) : List (Nat × Text × Rule) :=
  ((lines t).zipIdx 1).flatMap fun (line, number) =>
    (set.rules.filter fun rule =>
      rule.kind = .detect ∧ rule.IsForPath path ∧ Exposed rule.pattern line).map
        fun rule => (number, line, rule)

theorem linesFrom_eq_flatMap (path : Path) (rules : List Rule) (number : Nat) (lines : List Text) :
    linesFrom path rules number lines =
      (lines.zipIdx number).flatMap fun (line, number) =>
        rules.filterMap (findingOn? path number line) := by
  induction lines generalizing number with
  | nil => rfl
  | cons line lines ih => rw [linesFrom, ih, List.zipIdx_cons, List.flatMap_cons]

/-- On a line the rules exposed there are reported, in order. -/
theorem reports_filterMap (path : Path) (number : Nat) (line : Text) (rules : List Rule)
    (exposed : Rule → Bool)
    (hrules : ∀ rule ∈ rules, rule.pattern.automaton.Sourced ∧ rule.pattern.automaton.Ends)
    (hexposed : ∀ rule ∈ rules, exposed rule = true ↔ Exposed rule.pattern line) :
    List.Forall₂ (fun entry f => Reports path entry.1 entry.2.1 entry.2.2 f)
      ((rules.filter exposed).map fun rule => (number, line, rule))
      (rules.filterMap (findingOn? path number line)) := by
  induction rules with
  | nil => exact .nil
  | cons rule rules ih =>
    rw [List.forall_mem_cons] at hrules hexposed
    have hrest := ih hrules.2 hexposed.2
    rcases findingOn?_cases path number line hrules.1.1 hrules.1.2 with
      ⟨hexp, f, hfinding, hreports⟩ | ⟨hexp, hnone⟩
    · rw [List.filter_cons_of_pos (hexposed.1.mpr hexp), List.filterMap_cons_some hfinding]
      exact .cons hreports hrest
    · rw [List.filter_cons_of_neg (fun h => hexp (hexposed.1.mp h)),
        List.filterMap_cons_none hnone]
      exact hrest

/-- A scan reports each detecting rule for the path once for each line that it is exposed on, in the
order of the lines and on a line in the order of the rules. -/
theorem reports_file {config : Config} {set : RuleSet} (hload : RuleSet.load config = .ok set)
    (path : Path) (t : Text) :
    List.Forall₂ (fun entry f => Reports path entry.1 entry.2.1 entry.2.2 f)
      (exposures set path t) (file set path t) := by
  classical
  have hrules : ∀ rule ∈ set.rules,
      rule.pattern.automaton.Sourced ∧ rule.pattern.automaton.Ends := by
    intro rule hrule
    obtain ⟨entry, -, hmade⟩ :=
      RuleSet.madeFrom_of_compileFrom (RuleSet.loadedFrom_of_load hload).rules rule hrule
    exact ⟨Pattern.sourced_of_read hmade.pattern, Pattern.ends_of_read hmade.pattern⟩
  rw [file, withRules, linesFrom_eq_flatMap, exposures]
  refine List.rel_flatMap (List.forall₂_same.mpr fun place _ => rfl) ?_
  rintro ⟨line, number⟩ _ rfl
  have hline := reports_filterMap path number line
    ((set.forExtension path.extension).filter (·.kind = .detect))
    (fun rule => Exposed rule.pattern line)
    (fun rule hrule => hrules rule (List.mem_of_mem_filter (List.mem_of_mem_filter hrule)))
    (fun rule _ => decide_eq_true_iff)
  -- The rules of a file are filtered for its extension, for detecting and for what they find.
  convert hline using 2
  rw [RuleSet.forExtension, List.filter_filter, List.filter_filter]
  refine List.filter_congr fun rule _ => ?_
  rw [Bool.eq_iff_iff]
  simp only [Bool.and_eq_true, decide_eq_true_eq, rule.isFor_extension_iff]
  tauto

/-- A configuration with one rule, which looks out for a word. -/
def lookout : Config where
  rules := [{ id := "red", kind := .detect, pattern := "red" }]

/-- The rule of that configuration, ready to run. -/
def red : Rule where
  id := "red"
  kind := .detect
  pattern := ⟨"red", ⟨#[.accept, .take (.char 'd') 0, .take (.char 'e') 1, .take (.char 'r') 2], 3,
    #[[1], [2], [3], []]⟩, []⟩
  replacement := none
  description := ""
  appliesTo := []
  requires := none

theorem load_lookout : RuleSet.load lookout = .ok ⟨[red], ⟨1, []⟩, [], []⟩ := by
  have hread : Pattern.read "red" = .ok red.pattern := by
    decide
  have hrule : RuleSet.compileRule [] 0 { id := "red", kind := .detect, pattern := "red" } =
      .ok red := by
    rw [RuleSet.compileRule, hread]
    rfl
  exact RuleSet.bind_eq_ok.mpr ⟨_, RuleSet.compile_single hrule rfl, rfl⟩

/-- A word before a comment is reported, with the first of two matches; one in a comment is not. -/
theorem reports_file_lookout :
    RuleSet.load lookout = .ok ⟨[red], ⟨1, []⟩, [], []⟩ ∧
      List.Forall₂ (fun entry f => Reports ⟨"a.ts"⟩ entry.1 entry.2.1 entry.2.2 f)
        (exposures ⟨[red], ⟨1, []⟩, [], []⟩ ⟨"a.ts"⟩ " red red // red\r\n// red".toList)
        [⟨⟨"a.ts"⟩, 1, .detection, some "red", "", "red", "red red // red"⟩] := by
  have hfile : file ⟨[red], ⟨1, []⟩, [], []⟩ ⟨"a.ts"⟩ " red red // red\r\n// red".toList =
      [⟨⟨"a.ts"⟩, 1, .detection, some "red", "", "red", "red red // red"⟩] := by
    decide
  have hreports := reports_file load_lookout ⟨"a.ts"⟩ " red red // red\r\n// red".toList
  rw [hfile] at hreports
  exact ⟨load_lookout, hreports⟩

end Scan

end DesignTokens
