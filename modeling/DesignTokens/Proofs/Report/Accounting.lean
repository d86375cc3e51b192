import DesignTokens.Proofs.Report.Entries
import DesignTokens.Proofs.Report.Section
import Mathlib.Algebra.GroupWithZero.Nat
import Mathlib.Data.List.Dedup

/-! # The accounts of a report

The views of a report are computed one by one: the totals, the counts of the kinds, the outcome and
the document with its head and its sections. They agree, and with the findings that were filed,
whatever the order of the files was. Entries without findings count nowhere.

## Main definitions

* `Report.opening`, `Report.closing` - the document around the sections of the files
* `Report.Tallies` - the views of a report give account of findings

## Main results

* `Report.sum_countP_kind` - every finding is counted under one kind
* `Report.forall₂_sections` - the sections that are printed show the findings of the files
* `Report.filterMap_headingNumber?_flatten_sections` - the numbers that are read off the headings
* `Report.perm_steps_filesWithFindings` - the sections are those of the files that findings have
* `Report.tallies_and_applyAll_eq` - the views of a report give account of what was filed
-/

namespace DesignTokens.Report

/-- The lines of the document before the sections of the files. -/
def opening (report : Report) (text : Config.ReportEntry) : List String :=
  ["# " ++ text.title, ""] ++ report.countLines ++
  part report.filesChanged
    (["", "## " ++ changedHeading report.mode, ""] ++
      report.filesChanged.map fun path => "- `" ++ path.text ++ "`") ++
  part text.reference (["", "## Correct pattern", "", "```tsx"] ++ text.reference ++ ["```"]) ++
  ["", "## Findings"]

/-- The lines of the document after the sections of the files. -/
def closing (text : Config.ReportEntry) : List String :=
  part text.actions (["", "## Recommended actions", ""] ++ numbered 1 text.actions) ++
  part text.checklist (["", "## Checklist", ""] ++ text.checklist.map ("- [ ] " ++ ·))

/-- The views of a report give account of the findings that were filed. -/
structure Tallies (report : Report) (filed : List Finding) : Prop where
  /-- The findings by their paths, those of a file in the order in which they were filed. -/
  findings : report.findings = filed.mergeSort notAfter
  total : report.totalFindings = filed.length
  counts : ∀ kind n, (kind, n) ∈ report.countsByKind ↔
    n = filed.countP (·.kind = kind) ∧ 0 < n
  sum_counts : (report.countsByKind.map Prod.snd).sum = filed.length
  /-- Paths count by their steps. -/
  files : report.totalFilesWithIssues = (filed.map (·.file.steps)).dedup.length
  failures : report.hasFailures = true ↔ ∃ f ∈ filed, f.kind ≠ .detection
  /-- The document has a section for each file with findings, and says so if there is none. -/
  document : ∀ text, report.markdownLines text = report.opening text ++
    (if report.sections = [] then ["", "No problems found."] else []) ++
    report.sections.flatten ++ closing text
  /-- Every character of the document is in one of its lines, or ends one. -/
  characters : ∀ text, (report.markdown text).toList =
    (report.markdownLines text).flatMap fun line => line.toList ++ ['\n']
  /-- The sections show the findings of the files, in the order of the files. -/
  sections : List.Forall₂ (fun entry => SectionOf entry.1 entry.2) report.filesWithFindings
    report.sections
  sections_length : report.sections.length = report.totalFilesWithIssues
  /-- The headings that are printed are those of the files, and their numbers add up. -/
  headings : (report.sections.flatten.filterMap headingNumber?).length =
    report.totalFilesWithIssues
  sum_headings : (report.sections.flatten.filterMap headingNumber?).sum = filed.length
  /-- The items that are printed. -/
  items : report.sections.flatten.countP isItem = filed.length
  /-- A section has the findings of its file. -/
  section_findings : ∀ entry ∈ report.filesWithFindings,
    entry.2 ≠ [] ∧ entry.2 = filed.filter (·.file.same entry.1)
  /-- A finding has one section. -/
  one_section : ∀ f ∈ filed, ∃! entry, entry ∈ report.filesWithFindings ∧
    entry.1.same f.file = true

section

variable {report : Report} {operations : List Operation}

/-! ### Counting -/

theorem mem_filesWithFindings_iff {entry : Path × List Finding} :
    entry ∈ report.filesWithFindings ↔ entry ∈ report.perFile ∧ entry.2 ≠ [] := by
  rw [filesWithFindings, List.mem_filter, Bool.not_eq_true', List.isEmpty_eq_false_iff]

/-- Entries without findings add nothing to the findings. -/
theorem flatMap_filesWithFindings (report : Report) :
    report.filesWithFindings.flatMap Prod.snd = report.findings := by
  rw [filesWithFindings, findings]
  induction report.perFile with
  | nil => rfl
  | cons entry entries ih =>
    rw [List.filter_cons, List.flatMap_cons]
    by_cases hempty : entry.2 = []
    · rw [hempty]
      exact ih
    · rw [if_pos (by rw [List.isEmpty_eq_false_iff.mpr hempty]; rfl), List.flatMap_cons, ih]

theorem sum_length_filesWithFindings (report : Report) :
    (report.filesWithFindings.map (·.2.length)).sum = report.totalFindings := by
  rw [totalFindings, ← flatMap_filesWithFindings, List.length_flatMap]

theorem filesWithFindings_eq_nil_iff :
    report.filesWithFindings = [] ↔ report.totalFindings = 0 := by
  rw [totalFindings, ← flatMap_filesWithFindings, List.length_eq_zero_iff]
  constructor
  · intro hnil
    rw [hnil]
    rfl
  · intro hnil
    rw [List.eq_nil_iff_forall_not_mem]
    intro entry hentry
    have hfindings := List.flatMap_eq_nil_iff.mp hnil entry hentry
    exact (mem_filesWithFindings_iff.mp hentry).2 hfindings

/-- Every finding is counted under one kind. -/
theorem sum_countP_kind (findings : List Finding) :
    (Finding.Kind.all.map fun kind => findings.countP (·.kind = kind)).sum = findings.length := by
  induction findings with
  | nil => rfl
  | cons finding findings ih =>
    simp only [List.countP_cons, List.length_cons, Finding.Kind.all, List.map_cons, List.map_nil,
      List.sum_cons, List.sum_nil] at ih ⊢
    cases finding.kind <;> simp <;> omega

theorem sum_filter_pos (counts : List (Finding.Kind × Nat)) :
    ((counts.filter (0 < ·.2)).map Prod.snd).sum = (counts.map Prod.snd).sum := by
  induction counts with
  | nil => rfl
  | cons count counts ih =>
    rw [List.filter_cons, List.map_cons, List.sum_cons]
    by_cases hpos : 0 < count.2
    · rw [if_pos (decide_eq_true hpos), List.map_cons, List.sum_cons, ih]
    · rw [if_neg (by simpa using hpos), ih]
      omega

theorem sum_countsByKind (report : Report) :
    (report.countsByKind.map Prod.snd).sum = report.totalFindings := by
  rw [countsByKind, sum_filter_pos, List.map_map, totalFindings, ← sum_countP_kind]
  rfl

theorem mem_countsByKind_iff {kind : Finding.Kind} {n : Nat} :
    (kind, n) ∈ report.countsByKind ↔
      n = report.findings.countP (·.kind = kind) ∧ 0 < n := by
  have hall : kind ∈ Finding.Kind.all := by cases kind <;> decide
  rw [countsByKind, List.mem_filter, decide_eq_true_eq]
  refine and_congr_left fun _ => ?_
  constructor
  · intro hmem
    obtain ⟨_, -, heq⟩ := List.mem_map.mp hmem
    obtain ⟨rfl, rfl⟩ := Prod.mk.inj heq
    rfl
  · rintro rfl
    exact List.mem_map.mpr ⟨kind, hall, rfl⟩

theorem hasFailures_iff :
    report.hasFailures = true ↔ ∃ f ∈ report.findings, f.kind ≠ .detection := by
  simp only [hasFailures, List.any_eq_true, Finding.Kind.isFailure, bne_iff_ne]

/-! ### The document -/

theorem markdownLines_eq (report : Report) (text : Config.ReportEntry) :
    report.markdownLines text = report.opening text ++
      (if report.sections = [] then ["", "No problems found."] else []) ++
      report.sections.flatten ++ closing text := by
  have hnone : report.sections = [] ↔ report.totalFindings = 0 := by
    rw [sections, List.map_eq_nil_iff, filesWithFindings_eq_nil_iff]
  rw [if_congr hnone rfl rfl, markdownLines, opening, closing]
  simp only [List.append_assoc]

theorem toList_unlines (lines : List String) :
    (unlines lines).toList = lines.flatMap fun line => line.toList ++ ['\n'] := by
  rw [unlines, String.toList_join, List.flatMap_map]
  simp only [String.toList_append]
  rfl

/-! ### The sections -/

/-- The sections show the findings of the files, in the order of the files. -/
theorem forall₂_sections (report : Report) :
    List.Forall₂ (fun entry => SectionOf entry.1 entry.2) report.filesWithFindings
      report.sections := by
  rw [sections, List.forall₂_map_right_iff, List.forall₂_same]
  exact fun entry _ => sectionOf_fileSection entry

/-- The headings of sections have the numbers of the findings. -/
theorem filterMap_headingNumber?_flatten_sections {entries : List (Path × List Finding)}
    {sections : List (List String)}
    (h : List.Forall₂ (fun entry => SectionOf entry.1 entry.2) entries sections) :
    sections.flatten.filterMap headingNumber? = entries.map (·.2.length) := by
  induction h with
  | nil => rfl
  | cons hsection _ ih =>
    rw [List.flatten_cons, List.filterMap_append, hsection.filterMap_headingNumber?, ih]
    rfl

theorem countP_isItem_flatten_sections {entries : List (Path × List Finding)}
    {sections : List (List String)}
    (h : List.Forall₂ (fun entry => SectionOf entry.1 entry.2) entries sections) :
    sections.flatten.countP isItem = (entries.map (·.2.length)).sum := by
  induction h with
  | nil => rfl
  | cons hsection _ ih =>
    rw [List.flatten_cons, List.countP_append, hsection.countP_isItem, ih, List.map_cons,
      List.sum_cons]

/-! ### The files -/

theorem ascending_filesWithFindings (hreport : report.perFile = []) (operations : List Operation) :
    Path.Ascending ((report.applyAll operations).filesWithFindings.map Prod.fst) :=
  List.Pairwise.sublist (List.filter_sublist.map _) (ascending_perFile hreport operations)

/-- The sections are those of the files that findings have. -/
theorem perm_steps_filesWithFindings (hreport : report.perFile = []) (operations : List Operation) :
    ((report.applyAll operations).filesWithFindings.map (·.1.steps)).Perm
      ((pushed operations).map (·.file.steps)).dedup := by
  have hnodup : ((report.applyAll operations).filesWithFindings.map (·.1.steps)).Nodup := by
    refine List.pairwise_map.mpr ?_
    refine (List.pairwise_map.mp (ascending_filesWithFindings hreport operations)).imp ?_
    intro a b hlt heq
    rw [Path.lt, heq, Path.ltSteps_irrefl] at hlt
    cases hlt
  rw [List.perm_ext_iff_of_nodup hnodup (List.nodup_dedup _)]
  intro steps
  rw [List.mem_dedup, List.mem_map, List.mem_map]
  constructor
  · -- An entry is kept for a finding, and the finding is of its file.
    rintro ⟨entry, hentry, rfl⟩
    obtain ⟨hmem, hnonempty⟩ := mem_filesWithFindings_iff.mp hentry
    rw [snd_of_mem_perFile hreport hmem] at hnonempty
    obtain ⟨f, hf⟩ := List.exists_mem_of_ne_nil _ hnonempty
    obtain ⟨hpushed, hsame⟩ := List.mem_filter.mp hf
    exact ⟨f, hpushed, Path.same_iff.mp hsame⟩
  · rintro ⟨f, hf, rfl⟩
    obtain ⟨entry, hmem, hsame, hfiled⟩ := exists_mem_perFile hreport hf
    exact ⟨entry, mem_filesWithFindings_iff.mpr ⟨hmem, List.ne_nil_of_mem hfiled⟩,
      Path.same_iff.mp hsame⟩

/-- A finding has one section. -/
theorem existsUnique_section (hreport : report.perFile = []) {f : Finding}
    (hf : f ∈ pushed operations) :
    ∃! entry, entry ∈ (report.applyAll operations).filesWithFindings ∧
      entry.1.same f.file = true := by
  obtain ⟨entry, hmem, hsame, hfiled⟩ := exists_mem_perFile hreport hf
  refine ⟨entry, ⟨mem_filesWithFindings_iff.mpr ⟨hmem, List.ne_nil_of_mem hfiled⟩, hsame⟩, ?_⟩
  rintro other ⟨hother, hotherSame⟩
  -- Entries of one file are found where the report has the entry of that file.
  have hentries : ∀ {e}, e ∈ (report.applyAll operations).perFile → e.1.same f.file = true →
      e ∈ (report.applyAll operations).perFile.filter (·.1.same f.file) :=
    fun he hsame => List.mem_filter.mpr ⟨he, hsame⟩
  have hentry := hentries hmem hsame
  have hother := hentries (mem_filesWithFindings_iff.mp hother).1 hotherSame
  rw [filter_same_perFile hreport, Option.mem_toList] at hentry hother
  exact Option.some.inj (hother.symm.trans hentry)

/-- The views of a report give account of the findings that were filed. -/
theorem tallies_applyAll (hreport : report.perFile = []) (operations : List Operation) :
    (report.applyAll operations).Tallies (pushed operations) := by
  have hfindings := findings_applyAll hreport operations
  have hperm : (report.applyAll operations).findings.Perm (pushed operations) :=
    hfindings ▸ List.mergeSort_perm _ _
  have htotal : (report.applyAll operations).totalFindings = (pushed operations).length :=
    hperm.length_eq
  exact {
    findings := hfindings
    total := htotal
    counts := fun kind n => by rw [mem_countsByKind_iff, hperm.countP_eq]
    sum_counts := by rw [sum_countsByKind, htotal]
    files := by
      rw [totalFilesWithIssues, ← (perm_steps_filesWithFindings hreport operations).length_eq,
        List.length_map]
    failures := by
      rw [hasFailures_iff]
      exact exists_congr fun f => and_congr_left fun _ => hperm.mem_iff
    document := markdownLines_eq _
    characters := fun _ => toList_unlines _
    sections := forall₂_sections _
    sections_length := List.length_map _
    headings := by
      rw [filterMap_headingNumber?_flatten_sections (forall₂_sections _), List.length_map,
        totalFilesWithIssues]
    sum_headings := by
      rw [filterMap_headingNumber?_flatten_sections (forall₂_sections _),
        sum_length_filesWithFindings, htotal]
    items := by
      rw [countP_isItem_flatten_sections (forall₂_sections _), sum_length_filesWithFindings,
        htotal]
    section_findings := fun entry hentry => by
      obtain ⟨hmem, hnonempty⟩ := mem_filesWithFindings_iff.mp hentry
      exact ⟨hnonempty, snd_of_mem_perFile hreport hmem⟩
    one_section := fun f hf => existsUnique_section hreport hf }

end

/-! ### Turns -/

/-- Only the paths that something is filed under can tell two lists of operations apart. -/
theorem takesTurns_iff {operations others : List Operation} : TakesTurns operations others ↔
    ∀ filing ∈ filings operations ++ filings others,
      (filings operations).filter (·.1.same filing.1) =
        (filings others).filter (·.1.same filing.1) := by
  constructor
  · intro h filing _
    exact h filing.1
  · intro h path
    by_cases hfiled : ∃ filing ∈ filings operations ++ filings others, filing.1.same path = true
    · obtain ⟨filing, hmem, hsame⟩ := hfiled
      simpa only [Path.same, Path.same_iff.mp hsame] using h filing hmem
    · -- Nothing is filed under the path on either side.
      push Not at hfiled
      rw [List.filter_eq_nil_iff.mpr fun filing hmem => hfiled filing (List.mem_append_left _ hmem),
        List.filter_eq_nil_iff.mpr fun filing hmem => hfiled filing (List.mem_append_right _ hmem)]

instance (operations others : List Operation) : Decidable (TakesTurns operations others) :=
  decidable_of_iff _ takesTurns_iff.symm

/-- Whatever the operations on a new report are, its views give account of the findings that were
filed, and the turns that files take make no difference to it. -/
theorem tallies_and_applyAll_eq (mode : Mode) (filesScanned : Nat) (filesChanged : List Path)
    (operations others : List Operation) (h : TakesTurns operations others) :
    (applyAll ⟨mode, filesScanned, filesChanged, []⟩ operations).Tallies (pushed operations) ∧
      applyAll ⟨mode, filesScanned, filesChanged, []⟩ others =
        applyAll ⟨mode, filesScanned, filesChanged, []⟩ operations :=
  ⟨tallies_applyAll rfl operations, applyAll_eq_of_takesTurns rfl h⟩

/-- Two spellings of one path, a file with findings of two kinds and a file without any. -/
theorem tallies_and_applyAll_eq_spellings :
    TakesTurns
      [.push (.fileLevel ⟨"a//b.ts"⟩ .detection "x"), .touch ⟨"d.ts"⟩,
        .push (.fileLevel ⟨"c.ts"⟩ .writeFailure "y"),
        .extend [.fileLevel ⟨"a/b.ts"⟩ .detection "z", .fileLevel ⟨"c.ts"⟩ .detection "x"]]
      [.extend [.fileLevel ⟨"c.ts"⟩ .writeFailure "y", .fileLevel ⟨"a//b.ts"⟩ .detection "x"],
        .extend [.fileLevel ⟨"c.ts"⟩ .detection "x", .fileLevel ⟨"a/b.ts"⟩ .detection "z"],
        .touch ⟨"d.ts"⟩] ∧
    (applyAll ⟨.fix, 3, [], []⟩
      [.push (.fileLevel ⟨"a//b.ts"⟩ .detection "x"), .touch ⟨"d.ts"⟩,
        .push (.fileLevel ⟨"c.ts"⟩ .writeFailure "y"),
        .extend [.fileLevel ⟨"a/b.ts"⟩ .detection "z", .fileLevel ⟨"c.ts"⟩ .detection "x"]]).Tallies
      [.fileLevel ⟨"a//b.ts"⟩ .detection "x", .fileLevel ⟨"c.ts"⟩ .writeFailure "y",
        .fileLevel ⟨"a/b.ts"⟩ .detection "z", .fileLevel ⟨"c.ts"⟩ .detection "x"] ∧
    (applyAll ⟨.fix, 3, [], []⟩
      [.extend [.fileLevel ⟨"c.ts"⟩ .writeFailure "y", .fileLevel ⟨"a//b.ts"⟩ .detection "x"],
        .extend [.fileLevel ⟨"c.ts"⟩ .detection "x", .fileLevel ⟨"a/b.ts"⟩ .detection "z"],
        .touch ⟨"d.ts"⟩]).perFile =
      [(⟨"a//b.ts"⟩, [.fileLevel ⟨"a//b.ts"⟩ .detection "x", .fileLevel ⟨"a/b.ts"⟩ .detection "z"]),
        (⟨"c.ts"⟩, [.fileLevel ⟨"c.ts"⟩ .writeFailure "y", .fileLevel ⟨"c.ts"⟩ .detection "x"]),
        (⟨"d.ts"⟩, [])] := by
  have hturns : TakesTurns
      [.push (.fileLevel ⟨"a//b.ts"⟩ .detection "x"), .touch ⟨"d.ts"⟩,
        .push (.fileLevel ⟨"c.ts"⟩ .writeFailure "y"),
        .extend [.fileLevel ⟨"a/b.ts"⟩ .detection "z", .fileLevel ⟨"c.ts"⟩ .detection "x"]]
      [.extend [.fileLevel ⟨"c.ts"⟩ .writeFailure "y", .fileLevel ⟨"a//b.ts"⟩ .detection "x"],
        .extend [.fileLevel ⟨"c.ts"⟩ .detection "x", .fileLevel ⟨"a/b.ts"⟩ .detection "z"],
        .touch ⟨"d.ts"⟩] := by decide
  obtain ⟨htallies, heq⟩ := tallies_and_applyAll_eq .fix 3 [] _ _ hturns
  refine ⟨hturns, htallies, ?_⟩
  rw [heq]
  decide

end DesignTokens.Report
