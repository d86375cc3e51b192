import DesignTokens.CommandLine.Program
import DesignTokens.Proofs.Run.Effect

/-! # Finding out what fixing would change

A run that finds out what fixing would change reports what a run that fixes reports, if there every
change is confirmed and every write succeeds: the same files changed, in the same order, and the
same findings. The command therefore ends with the same code, or with the same message.

## Main definitions

* `Run.Granted` - whether every change of a run was confirmed and every write succeeded
* `Run.foretold` - what would become of the files of a walk
* `CommandLine.Console.onDisk` - a console that does not touch the disk
* `CommandLine.DocumentWritten` - whether the document of a run was written

## Main results

* `Run.value_fix`, `Run.value_dryRun` - both runs report what was foretold
* `CommandLine.value_run` - what a command that runs over files ends with
* `CommandLine.dryRun_foretells` - the same report, and the same code
-/

namespace DesignTokens

open World Disk

namespace Run

variable {σ : Type} {write : Path → Text → World σ (Except String Unit)}
  {confirm : Path → Fix.Outcome → StateM σ Bool} {job : Job} {disk : Disk} {s : σ}

/-- Whether a change, if there is one, was confirmed and written. -/
def Fate.isGranted : Fate → Bool
  | declined _ => false
  | failed .. => false
  | _ => true

/-- What was confirmed and written is what was foretold. -/
theorem Fate.Fits.eq_foretell {rules : RuleSet} {relative : Path}
    {content : Except FileFault Bytes} {fate : Fate} (h : fate.Fits rules relative content)
    (hgranted : fate.isGranted = true) : fate = foretell rules relative content := by
  rw [foretell]
  cases fate with
  | unreadable reason =>
    rw [Fits] at h
    rw [h]
  | unchanged outcome =>
    obtain ⟨text, htext, rfl, hchanged⟩ := h
    simp [htext, hchanged]
  | rewritten outcome =>
    obtain ⟨text, htext, rfl, hchanged⟩ := h
    simp [htext, hchanged]
  | declined outcome => cases hgranted
  | failed outcome reason => cases hgranted

/-- What would become of the files of a walk. -/
def foretold (job : Job) (disk : Disk) : List (Path × Fate) :=
  (collected job disk).1.map fun path =>
    (path, foretell job.rules (path.relativeTo job.root) (disk.read path))

/-- Every change of a run was confirmed and every write succeeded. -/
def Granted (write : Path → Text → World σ (Except String Unit))
    (confirm : Path → Fix.Outcome → StateM σ Bool) (job : Job) (disk : Disk) (s : σ) : Prop :=
  ∀ visit ∈ ((visits write confirm job disk (collected job disk).1).ended disk s).value,
    visit.2.isGranted = true

theorem Granted.visits_eq (h : Granted write confirm job disk s) :
    ((visits write confirm job disk (collected job disk).1).ended disk s).value =
      foretold job disk := by
  have hpaths := map_fst_visits write confirm job disk (collected job disk).1 disk s
  have hfits := fits_of_mem_visits write confirm job disk (collected job disk).1 disk s
  rw [Granted] at h
  generalize ((visits write confirm job disk (collected job disk).1).ended disk s).value = visited
    at h hpaths hfits ⊢
  rw [foretold, ← hpaths, List.map_map]
  refine (List.map_id visited).symm.trans (List.map_congr_left fun visit hvisit => ?_)
  exact Prod.ext rfl ((hfits visit hvisit).eq_foretell (h visit hvisit))

/-- A run that fixes files, with everything confirmed and written, reports what was foretold. -/
theorem value_fix (hsound : disk.tree.isSound = true) (hroot : disk.isFolder job.root = true)
    (hmode : job.mode = .fix) (hwrite : Replaces write) (h : Granted write confirm job disk s) :
    ((job.run (storageWith write) (asking confirm)).ended disk s).value =
      .ok (reportOf job (collected job disk).2 (foretold job disk)) := by
  rw [(ended_fix hsound hroot hmode hwrite confirm s).1, h.visits_eq]

/-- A run that finds out what fixing would change reports what was foretold. -/
theorem value_dryRun (hroot : disk.isFolder job.root = true) (hmode : job.mode = .dryRun) :
    ((job.run (storageWith write) (asking confirm)).ended disk s).value =
      .ok (reportOf job (collected job disk).2 (foretold job disk)) := by
  have hglance : ∀ (paths : List Path) (report : Report),
      paths.foldl (fun report path => glance job report path (disk.read path)) report =
        (paths.map fun path =>
          (path, foretell job.rules (path.relativeTo job.root) (disk.read path))).foldl
            (fun report visit => report.record (visit.1.relativeTo job.root) visit.2) report := by
    intro paths report
    rw [List.foldl_map]
    simp only [glance, hmode]
  rw [ended_run hroot, ended_files_of_ne_fix (by simp [hmode]), hglance, ← foldl_record_extend]
  rfl

/-- The mode of a run is all that its report has of it besides what was foretold. -/
theorem reportOf_mode (job : Job) (mode : Mode) (walked : List Finding)
    (visited : List (Path × Fate)) :
    reportOf { job with mode } walked visited = { reportOf job walked visited with mode } := by
  simp only [reportOf, Report.mk.injEq, true_and]
  exact Report.perFile_extend (by rfl) _

end Run

/-! ### The command -/

namespace CommandLine

/-- A console that does not touch the disk. -/
def Console.onDisk {σ : Type} (console : Console (StateM σ)) : Console (World σ) where
  out line := StateT.lift (console.out line)
  err line := StateT.lift (console.err line)
  ask question := StateT.lift (console.ask question)

variable {σ : Type} {write : Path → Text → World σ (Except String Unit)}
  {console : Console (StateM σ)} {disk : Disk} {s : σ}

theorem print_onDisk (console : Console (StateM σ)) (lines : List String) :
    console.onDisk.print lines = (StateT.lift (console.print lines) : World σ Unit) := by
  induction lines with
  | nil => rfl
  | cons line lines ih =>
    rw [Console.print, Console.print] at ih
    change (console.onDisk.out line >>= fun _ => lines.forM console.onDisk.out) = _
    rw [ih]
    rfl

theorem confirm_onDisk (console : Console (StateM σ)) :
    console.onDisk.confirm = asking console.confirm := by
  funext path outcome
  rw [Console.confirm, print_onDisk]
  rfl

/-- What work ends with that goes on after other work. -/
theorem ended_work_bind {α β : Type} (work : Work (World σ) α) (next : α → Work (World σ) β) :
    ((work >>= next).run).ended disk s =
      match (work.run.ended disk s).value with
      | .ok value => (next value).run.ended (work.run.ended disk s).disk
        (work.run.ended disk s).state
      | .error message =>
        ⟨.error message, (work.run.ended disk s).disk, (work.run.ended disk s).state⟩ := by
  rw [ExceptT.run_bind, ended_bind]
  cases (work.run.ended disk s).value <;> rfl

theorem ended_lift_bind {α β : Type} (program : World σ α) (next : α → Work (World σ) β) :
    ((liftM program >>= next : Work (World σ) β).run).ended disk s =
      (next (program.ended disk s).value).run.ended (program.ended disk s).disk
        (program.ended disk s).state := rfl

theorem ended_orStop_bind {ε α β : Type} (message : ε → String) (value : Except ε α)
    (next : α → Work (World σ) β) :
    ((orStop message value >>= next : Work (World σ) β).run).ended disk s =
      match value with
      | .ok value => (next value).run.ended disk s
      | .error e => ⟨.error (message e), disk, s⟩ := by
  cases value <;> rfl

/-- Work that leaves the disk as it is. -/
def Keeps {α : Type} (work : Work (World σ) α) : Prop :=
  ∀ disk s, (work.run.ended disk s).disk = disk

/-- Work that does not end with a message. -/
def Succeeds {α : Type} (work : Work (World σ) α) : Prop :=
  ∀ disk s, ∃ value, (work.run.ended disk s).value = .ok value

section

variable {α β : Type} {work : Work (World σ) α} {next : α → Work (World σ) β}

theorem Keeps.bind (h : Keeps work) (hnext : ∀ value, Keeps (next value)) :
    Keeps (work >>= next) := by
  intro disk s
  rw [ended_work_bind]
  split
  · rw [hnext, h]
  · exact h disk s

theorem keeps_pure (value : α) : Keeps (pure value : Work (World σ) α) :=
  fun _ _ => rfl

theorem keeps_orStop {ε : Type} (message : ε → String) (value : Except ε α) :
    Keeps (orStop message value : Work (World σ) α) :=
  fun _ _ => rfl

theorem keeps_lift {program : World σ α} (h : ∀ disk s, (program.ended disk s).disk = disk) :
    Keeps (liftM program : Work (World σ) α) :=
  h

theorem succeeds_lift (program : World σ α) : Succeeds (liftM program : Work (World σ) α) :=
  fun disk s => ⟨(program.ended disk s).value, rfl⟩

end

theorem disk_resolve (explicit : Option Path) (root : Path) (disk : Disk) (s : σ) :
    ((Config.resolve (storageWith write) explicit root).ended disk s).disk = disk := by
  unfold Config.resolve
  cases explicit with
  | some path => rfl
  | none =>
    have hisFile : ((storageWith write).isFile (root.join Config.fileName)).ended disk s =
        ⟨disk.isFile (root.join Config.fileName), disk, s⟩ := rfl
    simp only
    rw [ended_bind, hisFile]
    simp only
    split <;> rfl

/-- Reading the configuration and the rules leaves the disk as it is. -/
theorem keeps_rules (explicit : Option Path) (root : Path) (verbose : Bool) :
    Keeps (Host.rules ⟨storageWith write, console.onDisk⟩ explicit root verbose) := by
  have hconfig : Keeps (Host.config ⟨storageWith write, console.onDisk⟩ explicit root) :=
    (keeps_lift (disk_resolve explicit root)).bind fun _ => keeps_orStop _ _
  unfold Host.rules
  refine hconfig.bind fun _ => (keeps_orStop _ _).bind fun _ => ?_
  dsimp only
  split
  · exact (keeps_lift fun _ _ => rfl).bind fun _ => keeps_pure _
  · exact keeps_pure _

/-- The document of the report that a run ended with, if one is wanted, is written where the run
ended. -/
def DocumentWritten (write : Path → Text → World σ (Except String Unit)) (output : Output)
    (config : Config) (run : Ended σ (Except Run.NoRoot Report)) : Prop :=
  ∀ path report, output.report = some path → run.value = .ok report →
    ((write path (report.markdown config.report).toList).ended run.disk run.state).value = .ok ()

/-- A report is shown without failing if its document is written. -/
theorem exists_value_finish (console : Console (StateM σ)) (report : Report) (config : Config)
    (output : Output) (verbose : Bool)
    (hdocument : ∀ path, output.report = some path →
      ((write path (report.markdown config.report).toList).ended disk s).value = .ok ()) :
    ∃ shown, ((Host.finish ⟨storageWith write, console.onDisk⟩ report config output
      verbose).run.ended disk s).value = .ok shown := by
  have hshow : Succeeds (if output.json then liftM (console.onDisk.out report.json)
      else liftM (console.onDisk.print (report.listing verbose)) : Work (World σ) Unit) := by
    split
    · exact succeeds_lift _
    · exact succeeds_lift _
  unfold Host.finish
  cases hreport : output.report with
  | none => exact hshow disk s
  | some path =>
    -- The report is written before it is shown, and writing succeeds.
    have hwritten : ∃ done, ((Host.writeReport ⟨storageWith write, console.onDisk⟩ report config
        path verbose).run.ended disk s).value = .ok done := by
      unfold Host.writeReport
      rw [ended_lift_bind, write_storageWith, hdocument path hreport, ended_orStop_bind]
      dsimp only
      split
      · exact succeeds_lift _ _ _
      · exact ⟨(), rfl⟩
    obtain ⟨done, hdone⟩ := hwritten
    rw [ended_work_bind, hdone]
    exact hshow _ _

/-- The report that a command ends with whose run reports what was foretold. -/
def told (target : Target) (mode : Mode) (disk : Disk) :
    Except String (Config × RuleSet) → Except String Report
  | .error message => .error message
  | .ok (config, rules) =>
    match walkOptions target config.files with
    | .error message => .error message
    | .ok options =>
      if disk.isFolder target.root then
        .ok (Run.reportOf ⟨target.root, mode, rules, options⟩
          (Run.collected ⟨target.root, mode, rules, options⟩ disk).2
          (Run.foretold ⟨target.root, mode, rules, options⟩ disk))
      else .error (Run.NoRoot.message ⟨target.root⟩)

/-- What a command ends with that runs over files. -/
theorem value_run {target : Target} (mode : Mode) (output : Output)
    (confirm : Path → Fix.Outcome → StateM σ Bool)
    {loaded : Ended σ (Except String (Config × RuleSet))}
    (hloaded : (Host.rules ⟨storageWith write, console.onDisk⟩ target.config target.root
      target.verbose).run.ended disk s = loaded)
    (hdocument : ∀ config rules options, loaded.value = .ok (config, rules) →
      walkOptions target config.files = .ok options → DocumentWritten write output config
        ((Run.Job.run ⟨target.root, mode, rules, options⟩ (storageWith write)
          (asking confirm)).ended disk loaded.state))
    (hrun : ∀ config rules options, loaded.value = .ok (config, rules) →
      walkOptions target config.files = .ok options → disk.isFolder target.root = true →
      ((Run.Job.run ⟨target.root, mode, rules, options⟩ (storageWith write) (asking confirm)).ended
        disk loaded.state).value =
        .ok (Run.reportOf ⟨target.root, mode, rules, options⟩
          (Run.collected ⟨target.root, mode, rules, options⟩ disk).2
          (Run.foretold ⟨target.root, mode, rules, options⟩ disk))) :
    ((Host.run ⟨storageWith write, console.onDisk⟩ target output mode (asking confirm)).run.ended
      disk s).value = told target mode disk loaded.value := by
  have hkeeps : loaded.disk = disk := by
    rw [← hloaded]
    exact keeps_rules _ _ _ disk s
  unfold Host.run
  rw [ended_work_bind, hloaded, hkeeps]
  cases hvalue : loaded.value with
  | error message => rfl
  | ok found =>
    obtain ⟨config, rules⟩ := found
    dsimp only
    rw [ended_orStop_bind, told]
    cases hoptions : walkOptions target config.files with
    | error message => rfl
    | ok options =>
      dsimp only
      rw [ended_lift_bind]
      by_cases hroot : disk.isFolder target.root = true
      · have hreport := hrun config rules options hvalue hoptions hroot
        obtain ⟨_, hfinish⟩ := exists_value_finish console _ config output target.verbose
          fun path hpath => hdocument config rules options hvalue hoptions path _ hpath hreport
        rw [if_pos hroot, hreport, ended_orStop_bind]
        dsimp only
        rw [ended_work_bind, hfinish]
        rfl
      · have hnone : ((Run.Job.run ⟨target.root, mode, rules, options⟩ (storageWith write)
            (asking confirm)).ended disk loaded.state).value = .error ⟨target.root⟩ := by
          rw [Run.Job.run, ended_bind, ended_isFolder]
          simp only [hroot]
          rfl
        rw [if_neg hroot, hnone, ended_orStop_bind]

/-- The exit code of the command, or the message it ends with. -/
theorem value_perform_fix (target : Target) (output : Output) (dryRun interactive : Bool) :
    ((perform ⟨storageWith write, console.onDisk⟩
      (.fix target output dryRun interactive)).run.ended disk s).value =
      ((Host.run ⟨storageWith write, console.onDisk⟩ target output
        (if dryRun then .dryRun else .fix)
        (asking (if interactive then console.confirm else fun _ _ => pure true))).run.ended
          disk s).value.map fun report => if report.hasFailures then 1 else 0 := by
  have hconfirm : (if interactive = true then console.onDisk.confirm else fun _ _ => pure true) =
      asking (if interactive then console.confirm else fun _ _ => pure true) := by
    split
    · exact confirm_onDisk console
    · rfl
  simp only [perform, hconfirm]
  rw [ended_work_bind]
  cases ((Host.run ⟨storageWith write, console.onDisk⟩ target output
    (if dryRun then .dryRun else .fix)
    (asking (if interactive then console.confirm else fun _ _ => pure true))).run.ended
      disk s).value <;> rfl

/-- What was foretold has failures whether it is carried out or not. -/
theorem told_map_hasFailures {α : Type} (code : Bool → α) (target : Target) (disk : Disk)
    (loaded : Except String (Config × RuleSet)) :
    (told target .fix disk loaded).map (fun report => code report.hasFailures) =
      (told target .dryRun disk loaded).map fun report => code report.hasFailures := by
  cases loaded with
  | error message => rfl
  | ok found =>
    obtain ⟨config, rules⟩ := found
    rw [told, told]
    cases walkOptions target config.files with
    | error message => rfl
    | ok options =>
      have hmode := Run.reportOf_mode ⟨target.root, .dryRun, rules, options⟩ .fix
        (Run.collected ⟨target.root, .dryRun, rules, options⟩ disk).2
        (Run.foretold ⟨target.root, .dryRun, rules, options⟩ disk)
      dsimp only
      split
      · have hcode := congrArg (fun report : Report => code report.hasFailures) hmode
        exact congrArg Except.ok hcode
      · rfl

/-- Finding out what fixing would change foretells what fixing reports, if there everything is
confirmed and written: the reports agree in all but the mode, and the command ends the same way,
provided that both runs can write the documents of their reports. -/
theorem dryRun_foretells (disk : Disk) (hsound : disk.tree.isSound = true)
    (write : Path → Text → World σ (Except String Unit)) (hwrite : Replaces write) :
    (∀ (job : Run.Job) (confirm : Path → Fix.Outcome → StateM σ Bool) (s : σ),
      disk.isFolder job.root = true → Run.Granted write confirm { job with mode := .fix } disk s →
      ∃ foretold fixed : Report,
        ((Run.Job.run { job with mode := .dryRun } (storageWith write) (asking confirm)).ended
          disk s).value = .ok foretold ∧
        ((Run.Job.run { job with mode := .fix } (storageWith write) (asking confirm)).ended
          disk s).value = .ok fixed ∧
        fixed = { foretold with mode := .fix } ∧
        fixed.totalFindings = foretold.totalFindings ∧
        fixed.totalFilesWithIssues = foretold.totalFilesWithIssues ∧
        fixed.countsByKind = foretold.countsByKind ∧ fixed.hasFailures = foretold.hasFailures) ∧
    ∀ (target : Target) (output : Output) (interactive : Bool) (console : Console (StateM σ))
      (s : σ) (loaded : Ended σ (Except String (Config × RuleSet))),
      (Host.rules ⟨storageWith write, console.onDisk⟩ target.config target.root
        target.verbose).run.ended disk s = loaded →
      (∀ config rules options, loaded.value = .ok (config, rules) →
        walkOptions target config.files = .ok options →
        Run.Granted write (if interactive then console.confirm else fun _ _ => pure true)
          ⟨target.root, .fix, rules, options⟩ disk loaded.state ∧
        ∀ mode ∈ [Mode.dryRun, .fix], DocumentWritten write output config
          ((Run.Job.run ⟨target.root, mode, rules, options⟩ (storageWith write)
            (asking (if interactive then console.confirm else fun _ _ => pure true))).ended disk
            loaded.state)) →
      ((perform ⟨storageWith write, console.onDisk⟩
        (.fix target output true interactive)).run.ended disk s).value =
      ((perform ⟨storageWith write, console.onDisk⟩
        (.fix target output false interactive)).run.ended disk s).value := by
  -- Both runs report what was foretold, each in its own mode.
  constructor
  · intro job confirm s hroot hgranted
    have hdry : ((Run.Job.run { job with mode := .dryRun } (storageWith write)
        (asking confirm)).ended disk s).value = .ok (Run.reportOf { job with mode := .dryRun }
          (Run.collected job disk).2 (Run.foretold job disk)) :=
      Run.value_dryRun hroot rfl
    have hfix : ((Run.Job.run { job with mode := .fix } (storageWith write)
        (asking confirm)).ended disk s).value = .ok (Run.reportOf { job with mode := .fix }
          (Run.collected job disk).2 (Run.foretold job disk)) :=
      Run.value_fix hsound hroot rfl hwrite hgranted
    have hmode := Run.reportOf_mode { job with mode := .dryRun } .fix (Run.collected job disk).2
      (Run.foretold job disk)
    exact ⟨_, _, hdry, hmode ▸ hfix, rfl, rfl, rfl, rfl, rfl⟩
  · intro target output interactive console s loaded hloaded hsucceeds
    rw [value_perform_fix, value_perform_fix]
    have hdry := value_run .dryRun output _ hloaded (fun config rules options hvalue hoptions =>
      (hsucceeds config rules options hvalue hoptions).2 _ (by simp))
      fun config rules options hvalue hoptions hroot => Run.value_dryRun hroot rfl
    have hfix := value_run .fix output _ hloaded (fun config rules options hvalue hoptions =>
      (hsucceeds config rules options hvalue hoptions).2 _ (by simp))
      fun config rules options hvalue hoptions hroot =>
        Run.value_fix hsound hroot rfl hwrite (hsucceeds config rules options hvalue hoptions).1
    simp only [Bool.false_eq_true, if_true, if_false]
    rw [hdry, hfix]
    exact (told_map_hasFailures (fun failed => if failed then 1 else 0) target disk
      loaded.value).symm

/-! ### A folder with a file that is no text -/

/-- A document with the rule that removes letters. -/
def removalDocument : String :=
  "[[rules]]\nid = 'removal'\nkind = 'rewrite'\npattern = 'ab'\nreplacement = ''\n"

/-- A folder with a file of some content, one that is no text and a link, and the document. -/
def shelf (content : Bytes) : Disk where
  tree := .folder [("p", .folder [("a.ts", .file content), ("b.ts", .file [255]),
    ("c.ts", .link "a.ts")]), ("rules.toml", .file (Text.encode removalDocument.toList))]

/-- The files of the disk, with a console that takes every line and says yes. -/
def quietHost : Host (World Unit) where
  storage := storageWith Disk.storage.write
  console := Console.onDisk ⟨fun _ => pure (), fun _ => pure (), fun _ => pure true⟩

/-- The folder, with the rules of the document. -/
def shelfTarget : Target where
  root := ⟨"p"⟩
  config := some ⟨"rules.toml"⟩

/-- What the document and the target come to. -/
def shelfJob (mode : Mode) : Run.Job where
  root := ⟨"p"⟩
  mode := mode
  rules := ⟨[Fix.removalRule], ⟨1, []⟩, [], []⟩
  options := { Walk.Options.ofExtensions ["js", "jsx", "ts", "tsx"] with defaultExcludes := true }

theorem load_removal : RuleSet.load { rules := [Fix.removal] } = .ok (shelfJob .fix).rules := by
  rw [RuleSet.load, Fix.compile_removal]
  rfl

theorem rules_shelf (content : Bytes) :
    (quietHost.rules shelfTarget.config shelfTarget.root shelfTarget.verbose).run.ended
      (shelf content) () =
        ⟨.ok ({ rules := [Fix.removal] }, (shelfJob .fix).rules), shelf content, ()⟩ := by
  have hread : (shelf content).read ⟨"rules.toml"⟩ = .ok (Text.encode removalDocument.toList) := rfl
  have hdecode : Text.decode (Text.encode removalDocument.toList) = .ok removalDocument.toList := by
    decide +kernel
  have hdocument : Config.read removalDocument.toList = some { rules := [Fix.removal] } := by
    decide +kernel
  have hload : Config.load ⟨"rules.toml"⟩ ((shelf content).read ⟨"rules.toml"⟩) =
      .ok { rules := [Fix.removal] } := by
    rw [hread, Config.load, hdecode]
    simp only [hdocument]
    rfl
  have hresolve : (Config.resolve quietHost.storage shelfTarget.config shelfTarget.root).ended
      (shelf content) () =
        ⟨.ok ({ rules := [Fix.removal] }, some ⟨"rules.toml"⟩), shelf content, ()⟩ := by
    unfold Config.resolve
    simp only [shelfTarget, quietHost, ended_bind, ended_read, hload]
    rfl
  have hconfig : (quietHost.config shelfTarget.config shelfTarget.root).run.ended
      (shelf content) () =
        ⟨.ok ({ rules := [Fix.removal] }, some ⟨"rules.toml"⟩), shelf content, ()⟩ := by
    unfold Host.config
    rw [ended_lift_bind, hresolve]
    rfl
  unfold Host.rules
  rw [ended_work_bind, hconfig]
  dsimp only
  rw [ended_orStop_bind, load_removal]
  rfl

theorem collected_shelf (mode : Mode) :
    Run.collected (shelfJob mode) (shelf [97, 98]) = ([⟨"p/a.ts"⟩, ⟨"p/b.ts"⟩], []) := by
  cases mode <;> decide +kernel

/-- The first file is rewritten and the second one cannot be read. -/
theorem visits_shelf : ∃ reason,
    (Run.visits Disk.storage.write (fun _ _ => pure true) (shelfJob .fix) (shelf [97, 98])
      [⟨"p/a.ts"⟩, ⟨"p/b.ts"⟩]).ended (shelf [97, 98]) () =
        ⟨[(⟨"p/a.ts"⟩, .rewritten ⟨[], true, ["removal"], [], []⟩),
          (⟨"p/b.ts"⟩, .unreadable reason)], shelf [], ()⟩ := by
  have htext : Run.textOf ((shelf [97, 98]).read ⟨"p/a.ts"⟩) = .ok "ab".toList := by
    decide +kernel
  have hrelative : (⟨"p/a.ts"⟩ : Path).relativeTo (shelfJob .fix).root = ⟨"a.ts"⟩ := by
    decide +kernel
  have hfile : Fix.file (shelfJob .fix).rules ⟨"a.ts"⟩ "ab".toList =
      ⟨[], true, ["removal"], [], []⟩ := by
    decide +kernel
  have hwrite : ((Disk.storage (m := World Unit)).write ⟨"p/a.ts"⟩ []).ended (shelf [97, 98]) () =
      ⟨.ok (), shelf [], ()⟩ := by
    rw [ended_write]
    rfl
  have hfirst : (Run.fateOf Disk.storage.write (fun _ _ => pure true) (shelfJob .fix)
      (shelf [97, 98]) ⟨"p/a.ts"⟩).ended (shelf [97, 98]) () =
        ⟨.rewritten ⟨[], true, ["removal"], [], []⟩, shelf [], ()⟩ := by
    rw [Run.fateOf_rewritten htext (by rw [hrelative, hfile]) (by rw [hrelative, hfile, hwrite]),
      hrelative, hfile]
  obtain ⟨reason, hreason⟩ : ∃ reason,
      Run.textOf ((shelf [97, 98]).read ⟨"p/b.ts"⟩) = .error reason :=
    ⟨_, rfl⟩
  refine ⟨reason, ?_⟩
  simp only [Run.visits, List.mapM_cons, List.mapM_nil, ended_bind, ended_pure, hfirst,
    Run.fateOf_unreadable hreason]

theorem granted_shelf :
    Run.Granted Disk.storage.write (fun _ _ => pure true) (shelfJob .fix) (shelf [97, 98]) () := by
  obtain ⟨reason, hvisits⟩ := visits_shelf
  rw [Run.Granted, collected_shelf, hvisits]
  simp [Run.Fate.isGranted]

/-- Where the runs end: fixing has emptied the first file. -/
theorem disk_run_shelf {mode : Mode} (h : mode ∈ [Mode.dryRun, .fix]) :
    ∃ content ∈ [[97, 98], []],
      (((shelfJob mode).run (storageWith Disk.storage.write) (asking fun _ _ => pure true)).ended
        (shelf [97, 98]) ()).disk = shelf content := by
  have hroot : (shelf [97, 98]).isFolder (shelfJob mode).root = true := by
    cases mode <;> decide +kernel
  have hsound : (shelf [97, 98]).tree.isSound = true := by decide +kernel
  simp only [List.mem_cons, List.not_mem_nil, or_false] at h
  rcases h with rfl | rfl
  · refine ⟨[97, 98], by simp, ?_⟩
    rw [Run.ended_run hroot, Run.ended_files_of_ne_fix (by simp [shelfJob])]
  · refine ⟨[], by simp, ?_⟩
    obtain ⟨reason, hvisits⟩ := visits_shelf
    rw [(Run.ended_fix hsound hroot rfl replaces_storage _ ()).1, collected_shelf, hvisits]

/-- The document is made in the folder of the configuration. -/
theorem documentWritten_shelf {mode : Mode} (h : mode ∈ [Mode.dryRun, .fix]) (config : Config) :
    DocumentWritten Disk.storage.write { report := some ⟨"r.md"⟩ } config
      (((shelfJob mode).run (storageWith Disk.storage.write) (asking fun _ _ => pure true)).ended
        (shelf [97, 98]) ()) := by
  rintro path report ⟨⟩ -
  have hreplace : ∀ content ∈ [[97, 98], []], ∀ bytes,
      ((shelf content).replace noRefusals ⟨"r.md"⟩ bytes).result = .ok () := by
    simp only [List.forall_mem_cons]
    exact ⟨fun _ => rfl, fun _ => rfl, by simp⟩
  obtain ⟨content, hcontent, hdisk⟩ := disk_run_shelf h
  rw [hdisk, ended_write, hreplace content hcontent]
  rfl

/-- The file that is no text makes both commands end with the code one. -/
theorem value_perform_shelf :
    ((perform quietHost (.fix shelfTarget { report := some ⟨"r.md"⟩ } true false)).run.ended
      (shelf [97, 98]) ()).value = .ok 1 := by
  have hroot : (shelf [97, 98]).isFolder shelfTarget.root = true := by decide +kernel
  have hrun := value_run .dryRun { report := some ⟨"r.md"⟩ } (fun _ _ => pure true)
    (rules_shelf [97, 98])
    (by
      rintro config rules options ⟨⟩ ⟨⟩
      exact documentWritten_shelf (by simp) _)
    fun config rules options _ _ hroot => Run.value_dryRun hroot rfl
  rw [quietHost, value_perform_fix]
  refine (congrArg _ hrun).trans ?_
  obtain ⟨reason, hvisits⟩ := visits_shelf
  have hforetold := granted_shelf.visits_eq
  rw [collected_shelf, hvisits] at hforetold
  have hoptions : walkOptions shelfTarget {} = .ok (shelfJob .dryRun).options := rfl
  have htold : told shelfTarget .dryRun (shelf [97, 98]) (.ok ({ rules := [Fix.removal] },
      (shelfJob .fix).rules)) = .ok (Run.reportOf (shelfJob .dryRun)
        (Run.collected (shelfJob .dryRun) (shelf [97, 98])).2
        (Run.foretold (shelfJob .fix) (shelf [97, 98]))) := by
    rw [told]
    simp only [hoptions]
    rw [if_pos hroot]
    rfl
  -- The second file is no text, which is a failure in the report.
  rw [htold, collected_shelf, ← hforetold]
  rfl

/-- What is foretold of that folder is what fixing it reports, and the command that tells it ends
with the same code as the command that does it. Both write a document. -/
theorem dryRun_foretells_shelf :
    (∃ foretold fixed : Report,
      (((shelfJob .dryRun).run (storageWith Disk.storage.write) (asking fun _ _ => pure true)).ended
        (shelf [97, 98]) ()).value = .ok foretold ∧
      (((shelfJob .fix).run (storageWith Disk.storage.write) (asking fun _ _ => pure true)).ended
        (shelf [97, 98]) ()).value = .ok fixed ∧
      fixed = { foretold with mode := .fix }) ∧
    ∀ dryRun, ((perform quietHost (.fix shelfTarget { report := some ⟨"r.md"⟩ } dryRun
      false)).run.ended (shelf [97, 98]) ()).value = .ok 1 := by
  have hsound : (shelf [97, 98]).tree.isSound = true := by decide +kernel
  obtain ⟨hreports, hcodes⟩ := dryRun_foretells (shelf [97, 98]) hsound
    (Disk.storage (m := World Unit)).write replaces_storage
  constructor
  · obtain ⟨foretold, fixed, hforetold, hfixed, hmode, -⟩ :=
      hreports (shelfJob .fix) (fun _ _ => pure true) () (by decide +kernel) granted_shelf
    exact ⟨foretold, fixed, hforetold, hfixed, hmode⟩
  · have hsame := hcodes shelfTarget { report := some ⟨"r.md"⟩ } false
      ⟨fun _ => pure (), fun _ => pure (), fun _ => pure true⟩ () _ (rules_shelf [97, 98]) ?_
    · intro dryRun
      cases dryRun with
      | true => exact value_perform_shelf
      | false => exact hsame.symm.trans value_perform_shelf
    · rintro config rules options ⟨⟩ ⟨⟩
      exact ⟨granted_shelf, fun mode hmode => documentWritten_shelf hmode _⟩

end CommandLine

end DesignTokens
