import DesignTokens.Proofs.Fix.RulesOnly
import DesignTokens.Proofs.Run.Fate
import DesignTokens.Proofs.Run.World
import DesignTokens.Proofs.Walk.Files

/-! # What a run does to a disk

A run that scans, or that finds out what fixing would change, leaves the disk as it is. A run that
fixes files changes it while it still goes on reading. Yet each file is read as it was at the start,
for no two paths of a walk lead to the same file and a write changes no other. So the run is the
same as one that treats every file with the content it had at the start; and at its end the files
that were rewritten have their new texts, and everything else is as it was.

## Main definitions

* `Run.visits` - what becomes of files with the contents of a given disk
* `Run.Midway` - what holds between the visits of two files
* `Run.Effect` - what holds of a disk at the end of a run

## Main results

* `Run.Midway.visit` - what the visit of one file preserves
* `Run.Midway.run` - what a run over files does
* `Run.run_effect` - what a run over the files of a walk does
-/

namespace DesignTokens

namespace Run

open World Disk

variable {σ : Type} {write : Path → Text → World σ (Except String Unit)}
  {confirm : Path → Fix.Outcome → StateM σ Bool} {job : Job} {start disk : Disk} {s : σ}
  {path : Path} {paths : List Path}

/-! ### One file -/

/-- The change that a fate makes to the file at a place. -/
def Fate.changes (place : Place) : Fate → List (Place × Bytes)
  | rewritten outcome => [(place, outcome.newText.encode)]
  | _ => []

/-- What becomes of a file fits its content. -/
theorem fits_treat (write : Path → Text → World σ (Except String Unit))
    (confirm : Path → Fix.Outcome → StateM σ Bool) (rules : RuleSet) (path relative : Path)
    (content : Except FileFault Bytes) (disk : Disk) (s : σ) :
    ((treat write (asking confirm) rules path relative content).ended disk s).value.Fits rules
      relative content := by
  rw [treat]
  cases htext : textOf content with
  | error reason => exact htext
  | ok text =>
    simp only
    split
    · rename_i hchanged
      rw [ended_bind]
      split
      · rw [ended_bind]
        split
        · exact ⟨text, htext, rfl, hchanged⟩
        · exact ⟨text, htext, rfl, hchanged⟩
      · exact ⟨text, htext, rfl, hchanged⟩
    · rename_i hchanged
      exact ⟨text, htext, rfl, by simpa using hchanged⟩

/-- What is done with a file changes that file only, and only if the file is rewritten. -/
theorem becomes_treat (hwrite : Replaces write) (confirm : Path → Fix.Outcome → StateM σ Bool)
    (rules : RuleSet) (relative : Path) (place : Place) (content : Except FileFault Bytes)
    (hfile : ∀ bytes, content = .ok bytes → disk.HasFile path place bytes) (s : σ) :
    disk.Becomes
      (((treat write (asking confirm) rules path relative content).ended
        disk s).value.changes place)
      ((treat write (asking confirm) rules path relative content).ended disk s).disk := by
  rw [treat]
  cases hcontent : content with
  | error fault => exact .refl disk
  | ok bytes =>
    have hhas := hfile bytes hcontent
    cases textOf (.ok bytes) with
    | error reason => exact .refl disk
    | ok text =>
      simp only
      split
      · rw [ended_bind]
        split
        · rw [ended_bind, disk_ended_asking]
          have hreplaces := hwrite disk ((asking confirm relative
            (Fix.file rules relative text)).ended disk s).state path
            (Fix.file rules relative text).newText place bytes hhas
          generalize (write path (Fix.file rules relative text).newText).ended disk
            ((asking confirm relative (Fix.file rules relative text)).ended disk s).state = e
            at hreplaces ⊢
          cases hvalue : e.value with
          | ok _ =>
            rw [hvalue] at hreplaces
            exact hreplaces
          | error reason =>
            rw [hvalue] at hreplaces
            exact hreplaces
        · exact .refl disk
      · exact .refl disk

/-- A fate that fits a content that cannot be read changes nothing. -/
theorem changes_of_fits_error {rules : RuleSet} {relative : Path} {fault : FileFault} {fate : Fate}
    (h : fate.Fits rules relative (.error fault)) (place : Place) : fate.changes place = [] := by
  cases fate with
  | rewritten outcome =>
    obtain ⟨text, htext, -⟩ := h
    cases htext
  | _ => rfl

theorem Fate.place_of_mem_changes {place : Place} {fate : Fate} {change : Place × Bytes}
    (h : change ∈ fate.changes place) : change.1 = place := by
  cases fate with
  | rewritten outcome => rw [List.mem_singleton.mp h]
  | _ => cases h

/-! ### One file after the other -/

/-- What becomes of a file that has the content it has on a given disk. -/
def fateOf (write : Path → Text → World σ (Except String Unit))
    (confirm : Path → Fix.Outcome → StateM σ Bool) (job : Job) (start : Disk) (path : Path) :
    World σ Fate :=
  treat write (asking confirm) job.rules path (path.relativeTo job.root) (start.read path)

/-- A file that cannot be read is left alone. -/
theorem fateOf_unreadable {reason : String}
    (h : textOf (start.read path) = .error reason) :
    (fateOf write confirm job start path).ended disk s = ⟨.unreadable reason, disk, s⟩ := by
  rw [fateOf, treat, h]
  rfl

/-- A file with a change that is confirmed and written is rewritten. -/
theorem fateOf_rewritten {after : Disk} {text : Text} {s' : σ}
    (htext : textOf (start.read path) = .ok text)
    (hchanged : (Fix.file job.rules (path.relativeTo job.root) text).changed = true)
    (hwrite : (write path (Fix.file job.rules (path.relativeTo job.root) text).newText).ended
      disk s = ⟨.ok (), after, s'⟩) :
    (fateOf write (fun _ _ => pure true) job start path).ended disk s =
      ⟨.rewritten (Fix.file job.rules (path.relativeTo job.root) text), after, s'⟩ := by
  have hyes : ∀ outcome, (asking (fun _ _ => pure true : Path → Fix.Outcome → StateM σ Bool)
      (path.relativeTo job.root) outcome).ended disk s = ⟨true, disk, s⟩ := fun _ => rfl
  rw [fateOf, treat, htext]
  simp only [hchanged, if_true, ended_bind, hyes, hwrite]
  rfl

/-- What becomes of files that have the contents they have on a given disk, one after the other. -/
def visits (write : Path → Text → World σ (Except String Unit))
    (confirm : Path → Fix.Outcome → StateM σ Bool) (job : Job) (start : Disk) (paths : List Path) :
    World σ (List (Path × Fate)) :=
  paths.mapM fun path => do
    return (path, ← fateOf write confirm job start path)

/-- The change that a visit makes to a disk. -/
def changesAt (start : Disk) (visit : Path × Fate) : List (Place × Bytes) :=
  match start.locate true visit.1 with
  | .ok place => visit.2.changes place
  | .error _ => []

/-- What holds between two visits, where `paths` are still to be visited: the disk is the one of the
start but for some files, to which none of these paths leads. -/
structure Midway (start : Disk) (paths : List Path) (changes : List (Place × Bytes))
    (disk : Disk) : Prop where
  becomes : start.Becomes changes disk
  files : ∀ change ∈ changes, ∃ bytes, start.tree.node? change.1 = some (.file bytes)
  fresh : ∀ path ∈ paths, ∀ place, start.locate true path = .ok place →
    place ∉ changes.map (·.1)

/-- Before the first visit nothing is changed. -/
theorem Midway.refl (start : Disk) (paths : List Path) : Midway start paths [] start :=
  ⟨.refl start, by simp, by simp⟩

/-- A file that is still to be visited is read as it was at the start. -/
theorem Midway.read {changes : List (Place × Bytes)} (h : Midway start paths changes disk)
    (hpath : path ∈ paths) : disk.read path = start.read path :=
  h.becomes.read h.files (h.fresh path hpath)

/-- A visit that changes one file at most, which none of the later paths leads to. -/
theorem Midway.step {place : Place} {bytes : Bytes} {changes more : List (Place × Bytes)}
    {next : Disk} (h : Midway start (path :: paths) changes disk)
    (hstart : start.HasFile path place bytes) (hplaces : ∀ change ∈ more, change.1 = place)
    (hbecomes : disk.Becomes more next) (hapart : ∀ other ∈ paths, start.Apart path other) :
    Midway start paths (changes ++ more) next := by
  -- No change was made before at the place of this path.
  have hnew := h.fresh path List.mem_cons_self place (hstart.locate true)
  refine ⟨h.becomes.trans hbecomes ?_, ?_, ?_⟩
  · intro change hchange hmem
    obtain ⟨other, hother, heq⟩ := List.mem_map.mp hmem
    rw [hplaces other hother] at heq
    exact hnew (heq ▸ List.mem_map_of_mem hchange)
  · intro change hchange
    rcases List.mem_append.mp hchange with hchange | hchange
    · exact h.files change hchange
    · exact hplaces change hchange ▸ ⟨bytes, hstart.node⟩
  · intro other hother place' hplace' hmem
    rw [List.map_append, List.mem_append] at hmem
    rcases hmem with hmem | hmem
    · exact h.fresh other (List.mem_cons_of_mem path hother) place' hplace' hmem
    · obtain ⟨change, hchange, rfl⟩ := List.mem_map.mp hmem
      rw [hplaces change hchange] at hplace'
      exact hapart other hother place (hstart.locate true) hplace'

/-- A visit that changes nothing. -/
theorem Midway.skip {changes : List (Place × Bytes)} {next : Disk}
    (h : Midway start (path :: paths) changes disk) (hbecomes : disk.Becomes [] next) :
    Midway start paths (changes ++ []) next := by
  refine ⟨h.becomes.trans hbecomes (by simp), ?_, ?_⟩
  · simpa using h.files
  · intro other hother
    simpa using h.fresh other (List.mem_cons_of_mem path hother)

/-- What the visit of one file preserves. -/
theorem Midway.visit {changes : List (Place × Bytes)}
    (h : Midway start (path :: paths) changes disk) (hwrite : Replaces write)
    (hleads : ∃ place, start.LeadsTo path place) (hapart : ∀ other ∈ paths, start.Apart path other)
    (confirm : Path → Fix.Outcome → StateM σ Bool) (job : Job) (s : σ) :
    Midway start paths
      (changes ++ changesAt start
        (path, ((fateOf write confirm job start path).ended disk s).value))
      ((fateOf write confirm job start path).ended disk s).disk := by
  obtain ⟨place, hleads⟩ := hleads
  have hpath := List.mem_cons_self (a := path) (l := paths)
  have hfile : ∀ bytes, start.read path = .ok bytes → disk.HasFile path place bytes := by
    intro bytes hread
    have hstart := hleads.hasFile hread
    exact h.becomes.hasFile h.files hstart (h.fresh path hpath place (hstart.locate true))
  have hbecomes := becomes_treat hwrite confirm job.rules (path.relativeTo job.root) place
    (start.read path) hfile s
  have hfits := fits_treat write confirm job.rules path
    (path.relativeTo job.root) (start.read path) disk s
  rw [← fateOf] at hbecomes hfits
  generalize (fateOf write confirm job start path).ended disk s = e at hbecomes hfits ⊢
  -- A path that leads nowhere cannot be read, so nothing is changed for it.
  cases hleads with
  | nowhere fault hnowhere =>
    have hread : start.read path = .error fault := by
      rw [read_eq, hnowhere]
    rw [hread] at hfits
    rw [changes_of_fits_error hfits] at hbecomes
    have hnone : changesAt start (path, e.value) = [] := by
      rw [changesAt, hnowhere]
    rw [hnone]
    exact h.skip hbecomes
  | file bytes hstart =>
    have hchanges : changesAt start (path, e.value) = e.value.changes place := by
      rw [changesAt, hstart.locate]
    rw [hchanges]
    exact h.step hstart (fun _ => Fate.place_of_mem_changes) hbecomes hapart

/-- What a run over files does: it is as if each was treated with the content it had at the start.
-/
theorem Midway.run {changes : List (Place × Bytes)} (h : Midway start paths changes disk)
    (hmode : job.mode = .fix) (hwrite : Replaces write)
    (hleads : ∀ path ∈ paths, ∃ place, start.LeadsTo path place)
    (hapart : paths.Pairwise start.Apart) (confirm : Path → Fix.Outcome → StateM σ Bool)
    (report : Report) (s : σ) :
    (Run.files (storageWith write) (asking confirm) job report paths).ended disk s =
      ⟨((visits write confirm job start paths).ended disk s).value.foldl
          (fun report visit => report.record (visit.1.relativeTo job.root) visit.2) report,
        ((visits write confirm job start paths).ended disk s).disk,
        ((visits write confirm job start paths).ended disk s).state⟩ ∧
      Midway start []
        (changes ++ ((visits write confirm job start paths).ended disk s).value.flatMap
          (changesAt start))
        ((visits write confirm job start paths).ended disk s).disk := by
  induction paths generalizing changes disk report s with
  | nil => exact ⟨rfl, by simpa [visits] using h⟩
  | cons path paths ih =>
    have hread := h.read List.mem_cons_self
    have hstep := h.visit hwrite (hleads path List.mem_cons_self)
      (List.pairwise_cons.mp hapart).1 confirm job s
    have hrest := ih hstep (fun other hother => hleads other (List.mem_cons_of_mem path hother))
      (List.pairwise_cons.mp hapart).2
      (report.record (path.relativeTo job.root)
        ((fateOf write confirm job start path).ended disk s).value)
      ((fateOf write confirm job start path).ended disk s).state
    rw [Run.files] at hrest
    rw [Run.files, List.foldlM_cons, visit_fix hmode, visits, List.mapM_cons]
    simp only [ended_bind, ended_pure, ended_read, write_storageWith, hread, List.foldl_cons,
      List.flatMap_cons]
    rw [← List.append_assoc]
    exact hrest

/-! ### Whole runs -/

/-- What a walk from the root of a job comes upon. -/
def collected (job : Job) (disk : Disk) : List Path × List Finding :=
  Walk.collect job.options job.root (disk.rootOf job.root)

theorem ended_run (hroot : disk.isFolder job.root = true) (s : σ) :
    (job.run (storageWith write) (asking confirm)).ended disk s =
      ⟨.ok ((files (storageWith write) (asking confirm) job
          (({ mode := job.mode } : Report).extend (collected job disk).2)
          (collected job disk).1).ended disk s).value,
        ((files (storageWith write) (asking confirm) job
          (({ mode := job.mode } : Report).extend (collected job disk).2)
          (collected job disk).1).ended disk s).disk,
        ((files (storageWith write) (asking confirm) job
          (({ mode := job.mode } : Report).extend (collected job disk).2)
          (collected job disk).1).ended disk s).state⟩ := by
  rw [Job.run, ended_bind, ended_isFolder]
  simp only [hroot, if_true, walk, ended_bind, ended_pure, ended_rootOf]
  rfl

/-- A run over files that fixes nothing reads them, and that is all. -/
theorem ended_files_of_ne_fix (hmode : job.mode ≠ .fix) (report : Report) (s : σ) :
    (files (storageWith write) (asking confirm) job report paths).ended disk s =
      ⟨paths.foldl (fun report path => glance job report path (disk.read path)) report, disk,
      s⟩ := by
  induction paths generalizing report with
  | nil => rfl
  | cons path paths ih =>
    rw [files, List.foldlM_cons, visit_of_ne_fix hmode]
    exact ih _

theorem filesScanned_foldl_glance (job : Job) (disk : Disk) (report : Report) (paths : List Path) :
    (paths.foldl (fun report path => glance job report path (disk.read path))
      report).filesScanned = report.filesScanned + paths.length := by
  induction paths generalizing report with
  | nil => rfl
  | cons path paths ih =>
    rw [List.foldl_cons, ih, filesScanned_glance, List.length_cons]
    omega

/-- What holds at the end of a run that fixes files, with what became of each and the disk it ended
with. -/
structure Effect (job : Job) (disk : Disk) (visited : List (Path × Fate)) (after : Disk) :
    Prop where
  /-- Every file that the walk came upon was visited, in this order. -/
  paths : visited.map (·.1) = (collected job disk).1
  /-- What became of a file fits the content that it had before the run. -/
  fits : ∀ visit ∈ visited,
    visit.2.Fits job.rules (visit.1.relativeTo job.root) (disk.read visit.1)
  /-- A file that was rewritten has its new text. -/
  rewritten : ∀ visit ∈ visited, ∀ outcome, visit.2 = .rewritten outcome →
    after.read visit.1 = .ok outcome.newText.encode
  /-- No file is listed as changed twice. -/
  once : (changedBy job.root visited).Nodup
  /-- What stands at any other place is as it was. -/
  kept : ∀ place, (∀ visit ∈ visited, visit.2.isRewritten = true →
    disk.locate true visit.1 ≠ .ok place) → after.tree.node? place = disk.tree.node? place

section

variable (write) (confirm) (job) (start)

theorem map_fst_visits (paths : List Path) (disk : Disk) (s : σ) :
    ((visits write confirm job start paths).ended disk s).value.map (·.1) = paths := by
  induction paths generalizing disk s with
  | nil => rfl
  | cons path paths ih =>
    rw [visits, List.mapM_cons]
    simp only [ended_bind, ended_pure, List.map_cons]
    exact congrArg _ (ih _ _)

theorem fits_of_mem_visits (paths : List Path) (disk : Disk) (s : σ) :
    ∀ visit ∈ ((visits write confirm job start paths).ended disk s).value,
      visit.2.Fits job.rules (visit.1.relativeTo job.root) (start.read visit.1) := by
  induction paths generalizing disk s with
  | nil => simp [visits]
  | cons path paths ih =>
    rw [visits, List.mapM_cons]
    simp only [ended_bind, ended_pure, List.forall_mem_cons]
    exact ⟨fits_treat _ _ _ _ _ _ _ _, ih _ _⟩

end

/-- A fate that has a text fits a content that was read. -/
theorem read_of_fits_rewritten {rules : RuleSet} {relative : Path} {outcome : Fix.Outcome}
    (h : (Fate.rewritten outcome).Fits rules relative (disk.read path)) :
    ∃ bytes, disk.read path = .ok bytes := by
  obtain ⟨text, htext, -⟩ := h
  cases hread : disk.read path with
  | ok bytes => exact ⟨bytes, rfl⟩
  | error fault =>
    rw [hread] at htext
    cases htext

/-- Files are changed only where a path leads to a file that was rewritten. -/
theorem mem_changesAt {change : Place × Bytes} {visit : Path × Fate}
    (h : change ∈ changesAt start visit) :
    visit.2.isRewritten = true ∧ start.locate true visit.1 = .ok change.1 := by
  rw [changesAt] at h
  split at h
  · rename_i place hplace
    cases hfate : visit.2 with
    | rewritten outcome =>
      rw [hfate] at h
      rw [List.mem_singleton.mp h]
      exact ⟨rfl, hplace⟩
    | _ =>
      rw [hfate] at h
      cases h
  · cases h

/-- What the changes of all visits leave on the disk. -/
theorem Midway.effect {visited : List (Path × Fate)} {after : Disk}
    (hsound : start.tree.isSound = true) (hroot : start.isFolder job.root = true)
    (h : Midway start [] (visited.flatMap (changesAt start)) after)
    (hpaths : visited.map (·.1) = (collected job start).1)
    (hfits : ∀ visit ∈ visited,
      visit.2.Fits job.rules (visit.1.relativeTo job.root) (start.read visit.1)) :
    Effect job start visited after := by
  refine ⟨hpaths, hfits, ?_, ?_, ?_⟩
  · intro visit hvisit outcome hrewritten
    have hfit := hfits visit hvisit
    rw [hrewritten] at hfit
    obtain ⟨bytes, hread⟩ := read_of_fits_rewritten hfit
    have hmem : visit.1 ∈ (collected job start).1 := hpaths ▸ List.mem_map_of_mem hvisit
    obtain ⟨place, hleads⟩ := Walk.exists_leadsTo hsound hroot visit.1 hmem
    have hfile := hleads.hasFile hread
    have hchange : (place, outcome.newText.encode) ∈ visited.flatMap (changesAt start) := by
      refine List.mem_flatMap.mpr ⟨visit, hvisit, ?_⟩
      rw [changesAt, hfile.locate, hrewritten]
      exact List.mem_singleton_self _
    -- The path still leads to its place, whatever was changed there or elsewhere.
    rw [read_eq, h.becomes.locate h.files, hfile.locate]
    simp only [h.becomes.changed _ hchange]
  · have hnodup : ((collected job start).1.map (·.relativeTo job.root)).Nodup :=
      Walk.nodup_relativeTo hsound hroot
    rw [← hpaths, List.map_map] at hnodup
    exact hnodup.sublist (List.filter_sublist.map _)
  · intro place hplace
    apply h.becomes.kept
    intro hmem
    obtain ⟨change, hchange, rfl⟩ := List.mem_map.mp hmem
    obtain ⟨visit, hvisit, hchange⟩ := List.mem_flatMap.mp hchange
    obtain ⟨hrewritten, hlocate⟩ := mem_changesAt hchange
    exact hplace visit hvisit hrewritten hlocate

/-- A run that fixes the files of a walk treats each with the content it had at the start. -/
theorem ended_fix (hsound : disk.tree.isSound = true) (hroot : disk.isFolder job.root = true)
    (hmode : job.mode = .fix) (hwrite : Replaces write)
    (confirm : Path → Fix.Outcome → StateM σ Bool) (s : σ) :
    (job.run (storageWith write) (asking confirm)).ended disk s =
      ⟨.ok (reportOf job (collected job disk).2
          ((visits write confirm job disk (collected job disk).1).ended disk s).value),
        ((visits write confirm job disk (collected job disk).1).ended disk s).disk,
        ((visits write confirm job disk (collected job disk).1).ended disk s).state⟩ ∧
      Effect job disk ((visits write confirm job disk (collected job disk).1).ended disk s).value
        ((visits write confirm job disk (collected job disk).1).ended disk s).disk := by
  obtain ⟨hrun, hmidway⟩ := (Midway.refl disk (collected job disk).1).run hmode hwrite
    (Walk.exists_leadsTo hsound hroot) (Walk.pairwise_apart hsound hroot) confirm
    (({ mode := job.mode } : Report).extend (collected job disk).2) s
  constructor
  · rw [ended_run hroot, hrun, foldl_record_extend]
  · exact hmidway.effect hsound hroot (map_fst_visits write confirm job disk _ disk s)
      (fits_of_mem_visits write confirm job disk _ disk s)

/-- What a run does: without fixing it leaves the disk as it is, asks nobody and writes nothing; and
in fixing it treats every file with the content it had before the run, reports what became of it,
and changes the files that it rewrote and nothing else. -/
theorem run_effect (job : Job) (disk : Disk) (hsound : disk.tree.isSound = true)
    (hroot : disk.isFolder job.root = true) :
    (job.mode ≠ .fix → ∃ report : Report, report.filesScanned = (collected job disk).1.length ∧
      ∀ {σ : Type} (write : Path → Text → World σ (Except String Unit))
        (confirm : Path → Fix.Outcome → StateM σ Bool) (s : σ),
        (job.run (storageWith write) (asking confirm)).ended disk s = ⟨.ok report, disk, s⟩) ∧
    (job.mode = .fix → ∀ {σ : Type} (write : Path → Text → World σ (Except String Unit))
      (confirm : Path → Fix.Outcome → StateM σ Bool) (s : σ), Replaces write →
        ∃ visited after s',
          (visits write confirm job disk (collected job disk).1).ended disk s =
            ⟨visited, after, s'⟩ ∧
          (job.run (storageWith write) (asking confirm)).ended disk s =
            ⟨.ok (reportOf job (collected job disk).2 visited), after, s'⟩ ∧
          Effect job disk visited after) := by
  constructor
  · -- Without fixing, the report depends on what is read alone.
    intro hmode
    refine ⟨(collected job disk).1.foldl
      (fun report path => glance job report path (disk.read path))
      (({ mode := job.mode } : Report).extend (collected job disk).2), ?_, ?_⟩
    · rw [filesScanned_foldl_glance, Report.extend_eq]
      exact Nat.zero_add _
    · intro σ write confirm s
      rw [ended_run hroot, ended_files_of_ne_fix hmode]
  · intro hmode σ write confirm s hwrite
    obtain ⟨hrun, heffect⟩ := ended_fix hsound hroot hmode hwrite confirm s
    exact ⟨_, _, _, rfl, hrun, heffect⟩

/-- A folder with a file that a rule changes, one that is no text, and a link. -/
def folder : Disk where
  tree := .folder [("p", .folder [("a.ts", .file [97, 98]), ("b.ts", .file [255]),
    ("c.ts", .link "a.ts")])]

/-- The removal of letters from the files of that folder. -/
def removals : Job where
  root := ⟨"p"⟩
  mode := .fix
  rules := ⟨[Fix.removalRule], ⟨1, []⟩, [], []⟩
  options := .ofExtensions ["ts"]

theorem fateOf_folder : ((fateOf (Disk.storage (m := World Unit)).write (fun _ _ => pure true)
    removals folder ⟨"p/a.ts"⟩).ended folder ()).value =
      .rewritten ⟨[], true, ["removal"], [], []⟩ := by
  have hread : textOf (folder.read ⟨"p/a.ts"⟩) = .ok "ab".toList := by decide
  have hrelative : (⟨"p/a.ts"⟩ : Path).relativeTo removals.root = ⟨"a.ts"⟩ := by decide
  have hfile : Fix.file removals.rules ⟨"a.ts"⟩ "ab".toList = ⟨[], true, ["removal"], [], []⟩ := by
    decide +kernel
  have hwrite : ((Disk.storage (m := World Unit)).write ⟨"p/a.ts"⟩ []).ended folder () =
      ⟨.ok (), (folder.replace noRefusals ⟨"p/a.ts"⟩ []).disk, ()⟩ := by
    rw [ended_write]
    rfl
  rw [fateOf_rewritten hread (by rw [hrelative, hfile]) (by rw [hrelative, hfile, hwrite]),
    hrelative, hfile]

/-- One of two files is rewritten, and the link beside them stays. -/
theorem run_effect_folder : ∃ visited after,
    (removals.run (storageWith (Disk.storage (m := World Unit)).write)
      (asking fun _ _ => pure true)).ended folder () =
        ⟨.ok (reportOf removals [] visited), after, ()⟩ ∧
      visited.map (·.1) = [⟨"p/a.ts"⟩, ⟨"p/b.ts"⟩] ∧
      after.read ⟨"p/a.ts"⟩ = .ok [] ∧ after.tree.node? ["p", "c.ts"] = some (.link "a.ts") := by
  have hcollected : collected removals folder = ([⟨"p/a.ts"⟩, ⟨"p/b.ts"⟩], []) := by
    decide
  obtain ⟨visited, after, s', hvisits, hrun, heffect⟩ :=
    (run_effect removals folder (by decide) (by decide)).2 rfl
      (Disk.storage (m := World Unit)).write (fun _ _ => pure true) () replaces_storage
  have hpaths := heffect.paths
  rw [hcollected] at hvisits hrun hpaths
  simp only at hpaths
  refine ⟨visited, after, hrun, hpaths, ?_, ?_⟩
  · have hmem : (⟨"p/a.ts"⟩, .rewritten ⟨[], true, ["removal"], [], []⟩) ∈ visited := by
      rw [visits, List.mapM_cons, ended_bind, ended_bind] at hvisits
      have hvalue := congrArg Ended.value hvisits
      simp only [ended_bind, ended_pure, fateOf_folder] at hvalue
      rw [← hvalue]
      exact List.mem_cons_self
    exact heffect.rewritten _ hmem _ rfl
  · have hother : ∀ path ∈ [(⟨"p/a.ts"⟩ : Path), ⟨"p/b.ts"⟩],
        folder.locate true path ≠ .ok ["p", "c.ts"] := by
      decide
    rw [heffect.kept]
    · decide
    · intro visit hvisit _
      apply hother
      rw [← hpaths]
      exact List.mem_map_of_mem hvisit

end Run

end DesignTokens
