import DesignTokens.Proofs.Path.Order

/-! # The entries of a report

A report is filled with findings, one or several at a time, and with entries for files that have no
findings yet. What is filed under a file depends on what came in for that file alone: the entry has
the path that came first, and all its findings in the order in which they came. As the entries stand
in the order of their paths, files may take turns in any way without a difference to the report.

Taken together the findings of a report are those that came in, sorted by their paths. The sort is
stable: among the findings of a file it keeps the order.

## Main definitions

* `Report.Operation` - what fills a report
* `Report.pushed` - the findings that operations file
* `Report.TakesTurns` - the same operations on every file, whatever the turns the files take

## Main results

* `Report.filter_same_perFile` - the entry of a file is made of the operations on it
* `Report.applyAll_eq_of_takesTurns` - turns make no difference
* `Report.findings_applyAll` - the findings of a report are those filed, in a stable order
-/

namespace DesignTokens

/-! ### Lists in the order of paths -/

namespace Path

variable {p q r : Path}

theorem same_iff : p.same q = true ↔ p.steps = q.steps := by
  simp [same]

/-- Of two paths one comes first, or they are the same. -/
theorem lt_eq_false_iff : q.lt p = false ↔ p.lt q = true ∨ p.same q = true := by
  constructor
  · intro hlt
    by_cases hsame : p.same q = true
    · exact .inr hsame
    · refine .inl (lt_of_not_same ?_ hlt)
      rw [Bool.eq_false_iff, ne_eq, same_iff]
      exact fun heq => hsame (same_iff.mpr heq.symm)
  · rintro (hlt | hsame)
    · rw [Bool.eq_false_iff]
      intro hgt
      have hself := lt_trans hlt hgt
      rw [lt_irrefl] at hself
      cases hself
    · rw [lt, same_iff.mp hsame, ltSteps_irrefl]

theorem not_lt_trans (hqp : q.lt p = false) (hrq : r.lt q = false) : r.lt p = false := by
  rw [lt_eq_false_iff, lt, same_iff] at *
  rcases hqp with hpq | hpq
  · rcases hrq with hqr | hqr
    · exact .inl (ltSteps_trans hpq hqr)
    · exact .inl (hqr ▸ hpq)
  · rwa [hpq]

theorem mem_iff_of_filter_same {α : Type} (key : α → Path) {as bs : List α}
    (hkey : ∀ p, as.filter (fun a => (key a).same p) = bs.filter (fun b => (key b).same p))
    (x : α) :
    x ∈ as ↔ x ∈ bs := by
  have hself : (key x).same (key x) = true := same_iff.mpr rfl
  have hx := congrArg (x ∈ ·) (hkey (key x))
  simpa [List.mem_filter, hself] using hx

/-- What is in the order of its paths is settled by what belongs to each path. -/
theorem eq_of_filter_same {α : Type} (key : α → Path) {as bs : List α}
    (has : as.Pairwise fun a b => (key b).lt (key a) = false)
    (hbs : bs.Pairwise fun a b => (key b).lt (key a) = false)
    (hkey : ∀ p, as.filter (fun a => (key a).same p) = bs.filter (fun b => (key b).same p)) :
    as = bs := by
  induction as generalizing bs with
  | nil =>
    refine (List.eq_nil_iff_forall_not_mem.mpr fun b hb => ?_).symm
    exact List.not_mem_nil ((mem_iff_of_filter_same key hkey b).mpr hb)
  | cons a as ih =>
    have hmem := mem_iff_of_filter_same key hkey
    cases bs with
    | nil => exact absurd ((hmem a).mp List.mem_cons_self) List.not_mem_nil
    | cons b bs =>
      obtain ⟨ha, hasTail⟩ := List.pairwise_cons.mp has
      obtain ⟨hb, hbsTail⟩ := List.pairwise_cons.mp hbs
      -- Neither comes after the other, so both belong to one path, and each is the first there.
      have hsame : (key b).same (key a) = true := by
        have hba : (key b).lt (key a) = false := by
          rcases List.mem_cons.mp ((hmem b).mpr List.mem_cons_self) with rfl | hmem
          · exact lt_irrefl _
          · exact ha b hmem
        have hab : (key a).lt (key b) = false := by
          rcases List.mem_cons.mp ((hmem a).mp List.mem_cons_self) with rfl | hmem
          · exact lt_irrefl _
          · exact hb a hmem
        rw [lt_eq_false_iff] at hab
        exact hab.resolve_left (by simp [hba])
      have hhead := hkey (key a)
      rw [List.filter_cons, if_pos (same_iff.mpr rfl), List.filter_cons, if_pos hsame,
        List.cons.injEq] at hhead
      obtain ⟨rfl, -⟩ := hhead
      have hrest : ∀ p, as.filter (fun a => (key a).same p) =
          bs.filter (fun b => (key b).same p) := by
        intro p
        have hp := hkey p
        rw [List.filter_cons, List.filter_cons] at hp
        split at hp
        · exact (List.cons.inj hp).2
        · exact hp
      rw [ih hasTail hbsTail hrest]

end Path

namespace Report

/-! ### Operations -/

/-- What fills a report. -/
inductive Operation where
  | push (finding : Finding)
  | extend (findings : List Finding)
  /-- Makes an entry for a file that has none. -/
  | touch (file : Path)
  deriving Repr, DecidableEq

/-- The findings that an operation files. -/
def Operation.findings : Operation → List Finding
  | push finding => [finding]
  | extend findings => findings
  | touch _ => []

/-- What an operation files under which path, one finding at a time. -/
def Operation.filings : Operation → List (Path × List Finding)
  | push finding => [(finding.file, [finding])]
  | extend findings => findings.map fun f => (f.file, [f])
  | touch file => [(file, [])]

/-- A report after an operation. -/
def apply (report : Report) : Operation → Report
  | .push finding => report.push finding
  | .extend findings => report.extend findings
  | .touch file => report.touch file

/-- A report after several operations. -/
def applyAll (report : Report) (operations : List Operation) : Report :=
  operations.foldl apply report

/-- The findings that operations file, in order. -/
def pushed (operations : List Operation) : List Finding :=
  operations.flatMap Operation.findings

/-- What operations file under which path, in order. -/
def filings (operations : List Operation) : List (Path × List Finding) :=
  operations.flatMap Operation.filings

/-- Two lists of operations do the same with every file, though the files may take turns in
different ways. -/
def TakesTurns (operations others : List Operation) : Prop :=
  ∀ path : Path, (filings operations).filter (·.1.same path) =
    (filings others).filter (·.1.same path)

/-- Files findings under a path. -/
def file (table : List (Path × List Finding)) (filing : Path × List Finding) :
    List (Path × List Finding) :=
  alterFile filing.1 (· ++ filing.2) table

section

variable {table others entries : List (Path × List Finding)} {path p : Path}
  {change : List Finding → List Finding} {operations : List Operation} {report : Report}

theorem apply_eq (report : Report) (operation : Operation) :
    report.apply operation = { report with
      perFile := operation.filings.foldl file report.perFile } := by
  cases operation with
  | push finding => rfl
  | touch path =>
    have hid : (fun findings : List Finding => findings ++ []) = id := by
      funext findings
      exact List.append_nil findings
    rw [apply, touch, Operation.filings, List.foldl_cons, List.foldl_nil, file, hid]
  | extend findings =>
    rw [apply, extend, Operation.filings]
    induction findings generalizing report with
    | nil => rfl
    | cons finding findings ih =>
      rw [List.foldl_cons, ih]
      rfl

/-- Operations change the entries of a report and nothing else. -/
theorem applyAll_eq (report : Report) (operations : List Operation) :
    report.applyAll operations = { report with
      perFile := (filings operations).foldl file report.perFile } := by
  induction operations generalizing report with
  | nil => rfl
  | cons operation operations ih =>
    rw [applyAll, List.foldl_cons, ← applyAll, ih, apply_eq, filings, filings, List.flatMap_cons,
      List.foldl_append]

/-! ### The entry of a file -/

/-- Entries that all come after a path have none that is its own. -/
theorem filter_same_eq_nil (h : Path.Ascending (table.map Prod.fst))
    (hlt : ∀ first ∈ table.head?, path.lt first.1 = true) (hp : path.same p = true) :
    table.filter (·.1.same p) = [] := by
  rw [List.filter_eq_nil_iff]
  intro entry hentry hentryp
  have hgt : path.lt entry.1 = true := by
    cases table with
    | nil => cases hentry
    | cons first rest =>
      have hfirst := hlt first rfl
      rcases List.mem_cons.mp hentry with rfl | hentry
      · exact hfirst
      · exact Path.lt_trans hfirst
          ((List.pairwise_cons.mp h).1 entry.1 (List.mem_map_of_mem hentry))
  rw [Path.lt, Path.same_iff.mp hp, ← Path.same_iff.mp hentryp, Path.ltSteps_irrefl] at hgt
  cases hgt

/-- What is filed under a path stays out of the entries of all others. -/
theorem filter_same_alterFile (h : Path.Ascending (table.map Prod.fst)) :
    (alterFile path change table).filter (·.1.same p) =
      if path.same p then alterFile path change (table.filter (·.1.same p))
      else table.filter (·.1.same p) := by
  induction table with
  | nil =>
    rw [alterFile, List.filter_cons]
    rfl
  | cons entry rest ih =>
    obtain ⟨other, findings⟩ := entry
    obtain ⟨-, hrest⟩ := List.pairwise_cons.mp h
    rw [alterFile]
    by_cases hsame : path.same other = true
    · -- The entry is that of the path, and it is kept or dropped as before.
      rw [if_pos hsame]
      have hkeep : other.same p = path.same p := by
        rw [Bool.eq_iff_iff, Path.same_iff, Path.same_iff, Path.same_iff.mp hsame]
      by_cases hp : path.same p = true
      · rw [if_pos hp, List.filter_cons, if_pos (hkeep ▸ hp), List.filter_cons,
          if_pos (hkeep ▸ hp), alterFile, if_pos hsame]
      · rw [if_neg hp, List.filter_cons, if_neg (hkeep ▸ hp), List.filter_cons,
          if_neg (hkeep ▸ hp)]
    · rw [if_neg hsame]
      by_cases hlt : path.lt other = true
      · -- All entries come after the path, so that none of them is its own.
        rw [if_pos hlt]
        by_cases hp : path.same p = true
        · have hnone : ((other, findings) :: rest).filter (·.1.same p) = [] :=
            filter_same_eq_nil h (by simpa using hlt) hp
          rw [if_pos hp, List.filter_cons, if_pos hp, hnone]
          rfl
        · rw [if_neg hp, List.filter_cons, if_neg hp]
      · rw [if_neg hlt]
        have ih := ih hrest
        by_cases hother : other.same p = true
        · -- The entry is not that of the path, so the path is not `p`.
          have hp : ¬ path.same p = true := fun hp =>
            hsame (Path.same_iff.mpr ((Path.same_iff.mp hp).trans (Path.same_iff.mp hother).symm))
          rw [if_neg hp] at ih ⊢
          rw [List.filter_cons, if_pos hother, List.filter_cons, if_pos hother, ih]
        · rw [List.filter_cons, if_neg hother, List.filter_cons, if_neg hother, ih]

theorem ascending_foldl (filings : List (Path × List Finding))
    (h : Path.Ascending (table.map Prod.fst)) :
    Path.Ascending ((filings.foldl file table).map Prod.fst) := by
  induction filings generalizing table with
  | nil => exact h
  | cons filing filings ih => exact ih (ascending_alterFile h)

/-- The entry of a file depends on what is filed under it alone. -/
theorem filter_same_foldl (filings : List (Path × List Finding))
    (h : Path.Ascending (table.map Prod.fst)) :
    (filings.foldl file table).filter (·.1.same p) =
      (filings.filter (·.1.same p)).foldl file (table.filter (·.1.same p)) := by
  induction filings generalizing table with
  | nil => rfl
  | cons filing filings ih =>
    have hstep : (alterFile filing.1 (· ++ filing.2) table).filter (·.1.same p) = _ :=
      filter_same_alterFile h
    rw [List.foldl_cons, file, ih (ascending_alterFile h), hstep, List.filter_cons]
    by_cases hp : filing.1.same p = true
    · rw [if_pos hp, if_pos hp]
      rfl
    · rw [if_neg hp, if_neg hp]

/-- What is filed under one path is gathered in its entry. -/
theorem foldl_file_of_same (filings : List (Path × List Finding)) (findings : List Finding)
    (h : ∀ filing ∈ filings, filing.1.same path = true) :
    filings.foldl file [(path, findings)] = [(path, findings ++ filings.flatMap Prod.snd)] := by
  induction filings generalizing findings with
  | nil => simp
  | cons filing filings ih =>
    rw [List.forall_mem_cons] at h
    rw [List.foldl_cons, file, alterFile, if_pos h.1, ih _ h.2, List.flatMap_cons,
      List.append_assoc]

theorem flatMap_snd_filings (operations : List Operation) (p : Path) :
    ((filings operations).filter (·.1.same p)).flatMap Prod.snd =
      (pushed operations).filter (·.file.same p) := by
  have hextend : ∀ findings : List Finding,
      ((findings.map fun f => (f.file, [f])).filter (·.1.same p)).flatMap Prod.snd =
        findings.filter (·.file.same p) := by
    intro findings
    induction findings with
    | nil => rfl
    | cons finding findings ih =>
      rw [List.map_cons, List.filter_cons, List.filter_cons]
      split
      · rw [List.flatMap_cons, ih]
        rfl
      · exact ih
  induction operations with
  | nil => rfl
  | cons operation operations ih =>
    rw [filings, pushed, List.flatMap_cons, List.flatMap_cons, List.filter_append,
      List.filter_append, List.flatMap_append, ← filings, ← pushed, ih]
    -- One case for each operation: a finding is filed alone, a touched file without any.
    congr 1
    cases operation with
    | push finding => exact hextend [finding]
    | extend findings => exact hextend findings
    | touch file =>
      rw [Operation.filings, Operation.findings, List.filter_singleton, List.filter_nil]
      cases file.same p <;> rfl

/-- The entry of a file in a report that had none: the path that was filed first, with all findings
of the file in the order in which they were filed. -/
theorem filter_same_perFile (hreport : report.perFile = []) (operations : List Operation)
    (p : Path) : (report.applyAll operations).perFile.filter (·.1.same p) =
      (((filings operations).filter (·.1.same p)).head?.map fun first =>
        (first.1, (pushed operations).filter (·.file.same p))).toList := by
  have hnil : Path.Ascending (([] : List (Path × List Finding)).map Prod.fst) := .nil
  rw [applyAll_eq, hreport, filter_same_foldl _ hnil, ← flatMap_snd_filings]
  have hsame : ∀ filing ∈ (filings operations).filter (·.1.same p), filing.1.same p = true :=
    fun filing hfiling => (List.mem_filter.mp hfiling).2
  cases hfilings : (filings operations).filter (·.1.same p) with
  | nil => rfl
  | cons first rest =>
    rw [hfilings, List.forall_mem_cons] at hsame
    rw [List.filter_nil, List.foldl_cons, file, alterFile, List.nil_append, foldl_file_of_same]
    · rfl
    · intro filing hfiling
      exact Path.same_iff.mpr ((Path.same_iff.mp (hsame.2 filing hfiling)).trans
        (Path.same_iff.mp hsame.1).symm)

theorem ascending_perFile (hreport : report.perFile = []) (operations : List Operation) :
    Path.Ascending ((report.applyAll operations).perFile.map Prod.fst) := by
  rw [applyAll_eq, hreport]
  exact ascending_foldl _ .nil

/-- The turns that files take make no difference. -/
theorem applyAll_eq_of_takesTurns {others : List Operation} (hreport : report.perFile = [])
    (h : TakesTurns operations others) : report.applyAll others = report.applyAll operations := by
  have hordered : ∀ operations, (report.applyAll operations).perFile.Pairwise
      fun a b => b.1.lt a.1 = false := fun operations =>
    (List.pairwise_map.mp (ascending_perFile hreport operations)).imp fun hlt =>
      Path.lt_eq_false_iff.mpr (.inl hlt)
  have hperFile : (report.applyAll others).perFile = (report.applyAll operations).perFile := by
    refine Path.eq_of_filter_same Prod.fst (hordered others) (hordered operations) fun p => ?_
    rw [filter_same_perFile hreport, filter_same_perFile hreport, ← flatMap_snd_filings,
      ← flatMap_snd_filings, h p]
  calc report.applyAll others
      = { report with perFile := (report.applyAll others).perFile } := by rw [applyAll_eq]
    _ = { report with perFile := (report.applyAll operations).perFile } := by rw [hperFile]
    _ = report.applyAll operations := by rw [applyAll_eq]

/-! ### The findings in their order -/

/-- An entry has the findings of its file. -/
theorem snd_of_mem_perFile (hreport : report.perFile = []) {entry : Path × List Finding}
    (h : entry ∈ (report.applyAll operations).perFile) :
    entry.2 = (pushed operations).filter (·.file.same entry.1) := by
  have hmem : entry ∈ (report.applyAll operations).perFile.filter (·.1.same entry.1) :=
    List.mem_filter.mpr ⟨h, Path.same_iff.mpr rfl⟩
  rw [filter_same_perFile hreport, Option.mem_toList, Option.map_eq_some_iff] at hmem
  obtain ⟨first, -, heq⟩ := hmem
  exact (congrArg Prod.snd heq).symm

/-- A finding has an entry for its file. -/
theorem exists_mem_perFile (hreport : report.perFile = []) {f : Finding}
    (h : f ∈ pushed operations) :
    ∃ entry ∈ (report.applyAll operations).perFile, entry.1.same f.file = true ∧ f ∈ entry.2 := by
  have hf : f ∈ (pushed operations).filter (·.file.same f.file) :=
    List.mem_filter.mpr ⟨h, Path.same_iff.mpr rfl⟩
  have hentry := filter_same_perFile hreport operations f.file
  rw [← flatMap_snd_filings] at hf hentry
  cases hfilings : (filings operations).filter (·.1.same f.file) with
  | nil =>
    rw [hfilings] at hf
    cases hf
  | cons first rest =>
    rw [hfilings] at hf hentry
    have hmem : (first.1, (first :: rest).flatMap Prod.snd) ∈
        (report.applyAll operations).perFile.filter (·.1.same f.file) := by
      rw [hentry]
      exact List.mem_singleton_self _
    obtain ⟨hmem, hsame⟩ := List.mem_filter.mp hmem
    exact ⟨_, hmem, hsame, hf⟩

/-- The findings of a file are those of its entries, if all findings of an entry are of its file. -/
theorem filter_flatMap_snd {entries : List (Path × List Finding)} (p : Path)
    (h : ∀ entry ∈ entries, ∀ f ∈ entry.2, f.file.steps = entry.1.steps) :
    (entries.flatMap Prod.snd).filter (·.file.same p) =
      (entries.filter (·.1.same p)).flatMap Prod.snd := by
  induction entries with
  | nil => rfl
  | cons entry entries ih =>
    obtain ⟨hfiles, hentries⟩ := List.forall_mem_cons.mp h
    rw [List.flatMap_cons, List.filter_append, ih hentries]
    -- The findings of an entry are kept or dropped together with it.
    by_cases hp : entry.1.same p = true
    · rw [List.filter_cons, if_pos hp, List.flatMap_cons, List.filter_eq_self.mpr]
      intro f hf
      exact Path.same_iff.mpr ((hfiles f hf).trans (Path.same_iff.mp hp))
    · rw [List.filter_cons, if_neg hp, List.filter_eq_nil_iff.mpr, List.nil_append]
      intro f hf hfp
      exact hp (Path.same_iff.mpr ((hfiles f hf).symm.trans (Path.same_iff.mp hfp)))

/-- The findings of a file in the whole of the findings. -/
theorem filter_findings (hreport : report.perFile = []) (operations : List Operation) (p : Path) :
    (report.applyAll operations).findings.filter (·.file.same p) =
      (pushed operations).filter (·.file.same p) := by
  have hfiles : ∀ entry ∈ (report.applyAll operations).perFile, ∀ f ∈ entry.2,
      f.file.steps = entry.1.steps := by
    intro entry hentry f hf
    rw [snd_of_mem_perFile hreport hentry] at hf
    exact Path.same_iff.mp (List.mem_filter.mp hf).2
  rw [Report.findings, filter_flatMap_snd p hfiles, filter_same_perFile hreport]
  rw [← flatMap_snd_filings]
  cases (filings operations).filter (·.1.same p) with
  | nil => rfl
  | cons first rest => simp

/-- Whether the path of a finding does not come after that of another. -/
def notAfter (f g : Finding) : Bool :=
  !g.file.lt f.file

theorem notAfter_of_steps_eq {f g : Finding} (h : f.file.steps = g.file.steps) :
    notAfter f g = true := by
  rw [notAfter, Path.lt_eq_false_iff.mpr (.inr (Path.same_iff.mpr h)), Bool.not_false]

theorem notAfter_trans (f g h : Finding) (hfg : notAfter f g = true) (hgh : notAfter g h = true) :
    notAfter f h = true := by
  rw [notAfter, Bool.not_eq_true'] at *
  exact Path.not_lt_trans hfg hgh

theorem notAfter_total (f g : Finding) : (notAfter f g || notAfter g f) = true := by
  rw [notAfter, notAfter, Bool.or_eq_true, Bool.not_eq_true', Bool.not_eq_true']
  cases hlt : f.file.lt g.file with
  | true => exact .inl (Path.lt_eq_false_iff.mpr (.inl hlt))
  | false => exact .inr rfl

/-- Sorting by path keeps the order of the findings of a file. -/
theorem filter_mergeSort (findings : List Finding) (p : Path) :
    (findings.mergeSort notAfter).filter (·.file.same p) = findings.filter (·.file.same p) := by
  have hpairwise : (findings.filter (·.file.same p)).Pairwise (notAfter · ·) := by
    refine List.pairwise_of_forall_mem_list fun f hf g hg => notAfter_of_steps_eq ?_
    rw [Path.same_iff.mp (List.mem_filter.mp hf).2, Path.same_iff.mp (List.mem_filter.mp hg).2]
  have hsublist := List.sublist_mergeSort notAfter_trans notAfter_total hpairwise
    List.filter_sublist
  have hfilter := hsublist.filter (·.file.same p)
  rw [List.filter_filter] at hfilter
  simp only [Bool.and_self] at hfilter
  refine (hfilter.eq_of_length ?_).symm
  exact ((List.mergeSort_perm findings notAfter).filter _).length_eq.symm

/-- The findings of a report are those that were filed, in a stable order by path. -/
theorem findings_applyAll (hreport : report.perFile = []) (operations : List Operation) :
    (report.applyAll operations).findings = (pushed operations).mergeSort notAfter := by
  have hsorted := List.pairwise_mergeSort notAfter_trans notAfter_total (pushed operations)
  refine Path.eq_of_filter_same Finding.file ?_ (hsorted.imp fun h => by
    rwa [notAfter, Bool.not_eq_true'] at h) fun p => ?_
  · rw [Report.findings, List.flatMap_def, List.pairwise_flatten, List.pairwise_map]
    -- The findings of an entry are on its file, and the entries stand in the order of their
    -- files.
    have hfiles : ∀ entry ∈ (report.applyAll operations).perFile, ∀ f ∈ entry.2,
        f.file.steps = entry.1.steps := by
      intro entry hentry f hf
      rw [snd_of_mem_perFile hreport hentry] at hf
      exact Path.same_iff.mp (List.mem_filter.mp hf).2
    constructor
    · intro findings hfindings
      obtain ⟨entry, hentry, rfl⟩ := List.mem_map.mp hfindings
      refine List.pairwise_of_forall_mem_list fun f hf g hg => ?_
      rw [Path.lt, hfiles entry hentry f hf, hfiles entry hentry g hg, Path.ltSteps_irrefl]
    · refine (List.pairwise_map.mp (ascending_perFile hreport operations)).imp_of_mem ?_
      intro a b ha hb hab f hf g hg
      rw [Path.lt_eq_false_iff, Path.lt, hfiles a ha f hf, hfiles b hb g hg]
      exact .inl hab
  · rw [filter_findings hreport, filter_mergeSort]

end

end Report

end DesignTokens
