import DesignTokens.Run

/-! # What becomes of a file

A run that fixes files does one of five things with each: it cannot read the file, leaves it as it
is, leaves it because the change is declined, fails to write it, or rewrites it. Which of them is
decided by the content of the file, by whoever confirms and by whoever writes, and by nothing else;
and the report has no more of the file than this.

## Main definitions

* `Run.Fate` - what becomes of a file
* `Run.Fate.Fits` - whether a content can have a fate
* `Run.treat` - what is done with a file of a given content
* `Run.foretell` - what becomes of a file when everything is confirmed and every write succeeds
* `Run.reportOf` - the report about files and their fates

## Main results

* `Run.visit_fix` - a visit is to read, to treat and to record
* `Run.visit_of_ne_fix` - a visit in a run that fixes nothing is to read
* `Run.foldl_record` - the report about files that were visited one after the other
-/

namespace DesignTokens

namespace Run

/-- What becomes of a file in a run that fixes files. -/
inductive Fate where
  | unreadable (reason : String)
  | unchanged (outcome : Fix.Outcome)
  | declined (outcome : Fix.Outcome)
  | failed (outcome : Fix.Outcome) (reason : String)
  | rewritten (outcome : Fix.Outcome)
  deriving Repr, DecidableEq

namespace Fate

/-- Whether a file was rewritten. -/
def isRewritten : Fate → Bool
  | rewritten _ => true
  | _ => false

/-- What is reported about a file. -/
def findings (relative : Path) : Fate → List Finding
  | unreadable reason => [.fileLevel relative .fileReadError reason]
  | failed outcome reason =>
    .fileLevel relative .writeFailure ("cannot write file: " ++ reason) :: outcome.unresolved
  | unchanged outcome | declined outcome | rewritten outcome => outcome.unresolved

/-- Whether a file with a content can have a fate: what cannot be read is unreadable, and everything
else depends on what fixing makes of the text. -/
def Fits (rules : RuleSet) (relative : Path) (content : Except FileFault Bytes) : Fate → Prop
  | unreadable reason => textOf content = .error reason
  | unchanged outcome => ∃ text, textOf content = .ok text ∧
      outcome = Fix.file rules relative text ∧ outcome.changed = false
  | declined outcome | failed outcome _ | rewritten outcome => ∃ text, textOf content = .ok text ∧
      outcome = Fix.file rules relative text ∧ outcome.changed = true

end Fate

section

variable {m : Type → Type} [Monad m]

/-- What is done with a file of a given content, and what becomes of it. -/
def treat (write : Path → Text → m (Except String Unit)) (confirm : Path → Fix.Outcome → m Bool)
    (rules : RuleSet) (path relative : Path) (content : Except FileFault Bytes) : m Fate := do
  match textOf content with
  | .error reason => return .unreadable reason
  | .ok text =>
    let outcome := Fix.file rules relative text
    if outcome.changed then
      if ← confirm relative outcome then
        match ← write path outcome.newText with
        | .ok () => return .rewritten outcome
        | .error reason => return .failed outcome reason
      else return .declined outcome
    else return .unchanged outcome

/-- What becomes of a file when every change is confirmed and every write succeeds. -/
def foretell (rules : RuleSet) (relative : Path) (content : Except FileFault Bytes) : Fate :=
  match textOf content with
  | .error reason => .unreadable reason
  | .ok text =>
    let outcome := Fix.file rules relative text
    if outcome.changed then .rewritten outcome else .unchanged outcome

end

end Run

/-! ### Reports -/

namespace Report

variable {report : Report}

/-- A report with one more file that was visited. -/
def record (report : Report) (relative : Path) (fate : Run.Fate) : Report :=
  { report with
    filesScanned := report.filesScanned + 1
    filesChanged := report.filesChanged ++ if fate.isRewritten then [relative] else []
    }.extend (fate.findings relative)

@[simp]
theorem extend_cons (report : Report) (finding : Finding) (findings : List Finding) :
    report.extend (finding :: findings) = (report.push finding).extend findings := rfl

@[simp]
theorem extend_append (report : Report) (findings more : List Finding) :
    report.extend (findings ++ more) = (report.extend findings).extend more :=
  List.foldl_append

/-- Findings change nothing but what is filed. -/
theorem extend_eq (report : Report) (findings : List Finding) :
    report.extend findings = { report with perFile := (report.extend findings).perFile } := by
  induction findings generalizing report with
  | nil => rfl
  | cons finding findings ih =>
    rw [extend_cons, ih]
    rfl

/-- What is filed depends only on what was filed before. -/
theorem perFile_extend {report other : Report} (h : report.perFile = other.perFile)
    (findings : List Finding) :
    (report.extend findings).perFile = (other.extend findings).perFile := by
  induction findings generalizing report other with
  | nil => exact h
  | cons finding findings ih =>
    apply ih
    simp only [push, h]

end Report

namespace Run

/-- What is reported about files, relative to a root. -/
def findingsOf (root : Path) (visits : List (Path × Fate)) : List Finding :=
  visits.flatMap fun visit => visit.2.findings (visit.1.relativeTo root)

/-- The files that were rewritten, relative to a root. -/
def changedBy (root : Path) (visits : List (Path × Fate)) : List Path :=
  (visits.filter (·.2.isRewritten)).map (·.1.relativeTo root)

/-- The report about files and their fates, with the findings of the walk in front. -/
def reportOf (job : Job) (walked : List Finding) (visits : List (Path × Fate)) : Report where
  mode := job.mode
  filesScanned := visits.length
  filesChanged := changedBy job.root visits
  perFile := (({ mode := job.mode } : Report).extend (walked ++ findingsOf job.root visits)).perFile

/-- The report about files that are recorded one after the other. -/
theorem foldl_record (root : Path) (visits : List (Path × Fate)) (report : Report) :
    visits.foldl (fun report visit => report.record (visit.1.relativeTo root) visit.2) report =
      { report with
        filesScanned := report.filesScanned + visits.length
        filesChanged := report.filesChanged ++ changedBy root visits
        perFile := (report.extend (findingsOf root visits)).perFile } := by
  induction visits generalizing report with
  | nil => simp [Report.extend, changedBy, findingsOf]
  | cons visit visits ih =>
    rw [List.foldl_cons, ih, Report.record, Report.extend_eq]
    simp only [findingsOf, changedBy, List.flatMap_cons, List.filter_cons, Report.extend_append,
      List.length_cons, Report.mk.injEq, true_and]
    refine ⟨by omega, ?_, ?_⟩
    · cases visit.2.isRewritten <;> simp
    · apply Report.perFile_extend
      exact Report.perFile_extend (by rfl) _

theorem foldl_record_extend (job : Job) (walked : List Finding) (visits : List (Path × Fate)) :
    visits.foldl (fun report visit => report.record (visit.1.relativeTo job.root) visit.2)
      (({ mode := job.mode } : Report).extend walked) = reportOf job walked visits := by
  rw [foldl_record, ← Report.extend_append, Report.extend_eq]
  simp [reportOf]

/-! ### Visits -/

/-- The report after a file was visited in a run that fixes nothing. -/
def glance (job : Job) (report : Report) (path : Path) (content : Except FileFault Bytes) :
    Report :=
  let relative := path.relativeTo job.root
  match job.mode with
  | .audit =>
    match textOf content with
    | .error reason => report.record relative (.unreadable reason)
    | .ok text =>
      { report with filesScanned := report.filesScanned + 1 }.extend
        (Scan.file job.rules relative text)
  | _ => report.record relative (foretell job.rules relative content)

section

variable {m : Type → Type} [Monad m] [LawfulMonad m] {storage : Storage m}
  {confirm : Path → Fix.Outcome → m Bool} {job : Job}

/-- A visit in a run that fixes files: the content is read and treated, and the fate recorded. -/
theorem visit_fix (hmode : job.mode = .fix) (report : Report) (path : Path) :
    visit storage confirm job report path = do
      let content ← storage.read path
      let fate ← treat storage.write confirm job.rules path (path.relativeTo job.root) content
      return report.record (path.relativeTo job.root) fate := by
  rw [visit]
  congr 1
  funext content
  rw [treat]
  cases textOf content with
  | error reason => simp [Report.record, Report.extend, Fate.findings, Fate.isRewritten]
  | ok text =>
    simp only [handle, hmode]
    -- The answer and what writing gives are the same on both sides, so one case for each of them.
    split
    · simp only [write, bind_assoc]
      congr 1
      funext answer
      cases answer with
      | false => simp [Report.record, Fate.findings, Fate.isRewritten]
      | true =>
        simp only [if_true, bind_assoc]
        congr 1
        funext written
        cases written with
        | error reason => simp [Report.record, Fate.findings, Fate.isRewritten]
        | ok _ => simp [Report.record, Fate.findings, Fate.isRewritten]
    · simp [Report.record, Fate.findings, Fate.isRewritten]

omit [LawfulMonad m] in
/-- A visit in a run that fixes nothing: the content is read, and that is all. -/
theorem visit_of_ne_fix (hmode : job.mode ≠ .fix) (report : Report) (path : Path) :
    visit storage confirm job report path = do
      let content ← storage.read path
      return glance job report path content := by
  rw [visit]
  congr 1
  funext content
  rw [glance]
  cases hmode' : job.mode with
  | fix => exact absurd hmode' hmode
  | audit =>
    cases textOf content with
    | error reason => simp [Report.record, Report.extend, Fate.findings, Fate.isRewritten]
    | ok text => simp only [handle, hmode']
  | dryRun =>
    rw [foretell]
    cases textOf content with
    | error reason => simp [Report.record, Report.extend, Fate.findings, Fate.isRewritten]
    | ok text =>
      simp only [handle, hmode']
      split
      · simp [Report.record, Fate.findings, Fate.isRewritten]
      · simp [Report.record, Fate.findings, Fate.isRewritten]

theorem filesScanned_glance (job : Job) (report : Report) (path : Path)
    (content : Except FileFault Bytes) :
    (glance job report path content).filesScanned = report.filesScanned + 1 := by
  rw [glance]
  split
  · split
    · rw [Report.record, Report.extend_eq]
    · rw [Report.extend_eq]
  · rw [Report.record, Report.extend_eq]

end

end Run

end DesignTokens
