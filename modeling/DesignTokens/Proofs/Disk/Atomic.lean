import DesignTokens.Proofs.Disk.Fresh

/-! # Replacing a file as a whole or not at all

Whatever fails, and however much of the new file was written by then, a path is read as before until
its file is replaced, and from then on it has the new content. An attempt that fails leaves the disk
it found. One that succeeds changes what stands at one place: the member of that name in the folder
that the path leads to, be it a file, a link or nothing. A link there is replaced and not followed;
a path that goes through that very link on its way to the folder leads elsewhere afterwards.

## Main definitions

* `Disk.OnTheWay` - a state in which the file of a path is not replaced yet
* `Disk.Replaced` - a disk where the file of a path was replaced

## Main results

* `Disk.stage_spec` - the phases up to the renaming
* `Disk.replaced_of_rename` - the renaming
* `Disk.replace_wholly_or_not` - all phases
-/

namespace DesignTokens.Disk

/-- A state in which the file of a path is not replaced yet: there is one file more, at a place
where nothing stood, and the path leads where it led and is read as it was. -/
structure OnTheWay (disk : Disk) (path : Path) (state : Disk) : Prop where
  gains : ∃ staged content, disk.Gains staged content state
  locate : ∀ follow, state.locate follow path = disk.locate follow path
  read : state.read path = disk.read path

/-- A disk where the file of a path was replaced, which is under a name in a folder. -/
structure Replaced (disk : Disk) (path : Path) (content : Bytes) (folder : Place) (name : String)
    (after : Disk) : Prop where
  target : disk.target path = .ok (folder, name)
  /-- The content is at the place, and every other place is as it was. -/
  becomes : disk.Becomes [(folder ++ [name], content)] after
  /-- The path leads to the place still, unless it can go through a link that was there. -/
  target_after : (∀ link, disk.tree.node? (folder ++ [name]) ≠ some (.link link)) →
    after.target path = .ok (folder, name)
  read : after.target path = .ok (folder, name) → after.read path = .ok content

section

variable {disk state after : Disk} {path : Path} {staged : Staged} {content : Bytes}
  {folder : Place} {name : String}

/-! ### The place of a path -/

/-- The path of a file is read where it is renamed to. -/
theorem read_of_target {bytes : Bytes} (htarget : disk.target path = .ok (folder, name))
    (hfile : disk.tree.node? (folder ++ [name]) = some (.file bytes)) :
    disk.read path = .ok bytes := by
  obtain ⟨hfault, hpoint, hpoints, hlong, ⟨before, hparts, hgoal⟩, hfolder, -⟩ :=
    target_eq_ok_iff.mp htarget
  have hlast : ∀ onLink, locateWith disk.tree true onLink folder [name] =
      .ok (folder ++ [name]) := by
    intro onLink
    rw [locateWith_cons, hfolder, Tree.shape?, hfile]
    simp [hpoint, hpoints, hlong, Tree.Node.shape, locateWith]
  have hlocate : disk.locate true path = .ok (folder ++ [name]) := by
    rw [locate, hfault]
    simp only
    rw [hparts]
    exact locateFrom_append (List.cons_ne_nil _ _) hlast hgoal
  rw [read_eq, hlocate]
  simp only [hfile]

/-! ### Phases -/

theorem Stages.onTheWay (h : disk.Stages path staged content state) : disk.OnTheWay path state :=
  ⟨⟨staged, content, h.gains⟩, fun follow => (h.locate follow).eq, h.read⟩

theorem Stages.stagedContent? (h : disk.Stages path staged content state) :
    state.stagedContent? staged = some content := by
  rw [Disk.stagedContent?, h.get?_staged]

/-- The phases up to the renaming. -/
theorem stage_spec (hordered : disk.tree.isOrdered = true) (refusals : Refusals) :
    (∀ state ∈ (disk.stage refusals path content).passed, disk.OnTheWay path state) ∧
      match (disk.stage refusals path content).result with
      | .error _ => (disk.stage refusals path content).disk = disk
      | .ok staged => disk.Stages path staged content (disk.stage refusals path content).disk := by
  rw [stage]
  split
  · refine ⟨?_, rfl⟩
    intro state hstate
    cases hstate
  · rename_i created staged hcreate
    have hcreated : disk.Stages path staged [] created := by
      cases hrefusal : refusals.fault? .create with
      | some fault =>
        rw [hrefusal] at hcreate
        cases hcreate
      | none =>
        rw [hrefusal] at hcreate
        exact stages_create hcreate
    -- The new file when a part of the content is written, and when all of it is.
    have hbegun := hcreated.fill (content.take refusals.written)
    have hfilled := hbegun.fill content
    simp only
    split
    · refine ⟨?_, hbegun.discard hordered⟩
      simp [hcreated.onTheWay, hbegun.onTheWay]
    · split
      · refine ⟨?_, hfilled.discard hordered⟩
        simp [hcreated.onTheWay, hbegun.onTheWay, hfilled.onTheWay]
      · refine ⟨?_, hfilled⟩
        simp [hcreated.onTheWay, hbegun.onTheWay]

/-- Where another file was put in the place of a file or of nothing, paths lead where they led. -/
theorem target_of_becomes (htarget : disk.target path = .ok (folder, name))
    (hlink : ∀ link, disk.tree.node? (folder ++ [name]) ≠ some (.link link))
    (hbecomes : disk.Becomes [(folder ++ [name], content)] after) :
    after.target path = .ok (folder, name) := by
  obtain ⟨hfault, hpoint, hpoints, hlong, ⟨before, hparts, hgoal⟩, hfolder, hmember⟩ :=
    target_eq_ok_iff.mp htarget
  have hplace := hbecomes.changed _ (List.mem_singleton_self _)
  have hshape : ∀ place node, disk.tree.shape? place = some node →
      after.tree.shape? place = some node := by
    intro place node hnode
    by_cases hsame : place = folder ++ [name]
    · -- A file stood there, as it was no folder and no link.
      subst hsame
      rw [Tree.shape?] at hnode hmember ⊢
      rw [hplace]
      cases hold : disk.tree.node? (folder ++ [name]) with
      | none =>
        rw [hold] at hnode
        cases hnode
      | some old =>
        rw [hold] at hnode hmember
        cases old with
        | file bytes => exact hnode
        | link target => exact absurd hold (hlink target)
        | folder => exact absurd rfl hmember
    · rw [Tree.shape?, hbecomes.kept place (by simpa using hsame)]
      exact hnode
  refine target_eq_ok_iff.mpr ⟨hfault, hpoint, hpoints, hlong, ⟨before, hparts, ?_⟩,
    hshape _ _ hfolder, ?_⟩
  · rw [hbecomes.here]
    exact locateFrom_mono hshape hgoal
  · rw [Tree.shape?, hplace]
    intro hfolder
    cases hfolder

/-- The renaming of a new file. -/
theorem replaced_of_rename (hordered : disk.tree.isOrdered = true)
    (h : disk.Stages path staged content state) (hrename : state.rename staged path = .ok after) :
    ∃ folder name, disk.Replaced path content folder name after := by
  obtain ⟨folder, name, file, htarget, hget, rfl⟩ := rename_eq_ok hrename
  have hold : state.tree.erase staged.folder staged.name = disk.tree :=
    congrArg Disk.tree (h.discard hordered)
  rw [h.target] at htarget
  obtain rfl : file = .file content := Option.some.inj (hget.symm.trans h.get?_staged)
  obtain ⟨-, -, -, -, -, hfolder, hmember⟩ := target_eq_ok_iff.mp htarget
  rw [Tree.shape?_eq_folder_iff] at hfolder
  rw [ne_eq, Tree.shape?_eq_folder_iff] at hmember
  rw [hold, h.gains.here]
  have hbecomes := (Becomes.refl disk).put hfolder hmember content
  exact ⟨folder, name, htarget, hbecomes, fun hlink => target_of_becomes htarget hlink hbecomes,
    fun hafter => read_of_target hafter (hbecomes.changed _ (List.mem_singleton_self _))⟩

/-- A file is replaced as a whole or not at all. Until it is, its path is read as before; if it is
not, the disk is the old one, and if it is, the new content is at its place and nothing else was
changed. A staged file that is discarded leaves the old disk. -/
theorem replace_wholly_or_not (disk : Disk) (hordered : disk.tree.isOrdered = true)
    (refusals : Refusals) (path : Path) (content : Bytes) :
    (∀ state ∈ (disk.replace refusals path content).passed, disk.OnTheWay path state) ∧
    (match (disk.replace refusals path content).result with
      | .error _ => (disk.replace refusals path content).disk = disk
      | .ok () => ∃ folder name,
          disk.Replaced path content folder name (disk.replace refusals path content).disk) ∧
    match (disk.stage refusals path content).result with
    | .error _ => (disk.stage refusals path content).disk = disk
    | .ok staged =>
      disk.OnTheWay path (disk.stage refusals path content).disk ∧
        (disk.stage refusals path content).disk.stagedContent? staged = some content ∧
        (disk.stage refusals path content).disk.discard staged = disk := by
  obtain ⟨hpassed, hstage⟩ : (∀ state ∈ (disk.stage refusals path content).passed, _) ∧ _ :=
    stage_spec hordered refusals
  rw [replace]
  cases hresult : (disk.stage refusals path content).result with
  | error fault =>
    rw [hresult] at hstage
    exact ⟨hpassed, hstage, hstage⟩
  | ok staged =>
    rw [hresult] at hstage
    simp only at hstage ⊢
    refine ⟨?_, ?_, hstage.onTheWay, hstage.stagedContent?, hstage.discard hordered⟩
    · have hcommit : ((disk.stage refusals path content).disk.commit refusals staged path).passed =
          [] := by
        rw [commit]
        split <;> rfl
      simp only [hcommit, List.mem_append, List.mem_singleton]
      rintro state (hstate | rfl)
      · exact hpassed state hstate
      · exact hstage.onTheWay
    · rw [commit]
      cases hrefusal : refusals.fault? .rename with
      | some fault => exact hstage.discard hordered
      | none =>
        simp only [Option.elim_none]
        cases hrename : (disk.stage refusals path content).disk.rename staged path with
        | error fault => exact hstage.discard hordered
        | ok after => exact replaced_of_rename hordered hstage hrename

end

/-- A folder with a file and a link to it. -/
def linked : Disk where
  tree := .folder [("p", .folder [("a.ts", .file [97]), ("b.ts", .link "a.ts")])]

/-- The link gives way to a file, or stays if the renaming is refused. -/
theorem replace_wholly_or_not_linked :
    linked.tree.isOrdered = true ∧
      (∃ folder name, linked.Replaced ⟨"p/b.ts"⟩ [98, 99] folder name
        (linked.replace ⟨fun _ => none, 1⟩ ⟨"p/b.ts"⟩ [98, 99]).disk) ∧
      (linked.replace ⟨fun phase => if phase = .rename then some .busy else none, 1⟩ ⟨"p/b.ts"⟩
        [98, 99]).disk = linked := by
  have hordered : linked.tree.isOrdered = true := by decide
  have hdone : (linked.replace ⟨fun _ => none, 1⟩ ⟨"p/b.ts"⟩ [98, 99]).result = .ok () := by
    decide
  have hrefused : (linked.replace ⟨fun phase => if phase = .rename then some .busy else none, 1⟩
      ⟨"p/b.ts"⟩ [98, 99]).result = .error .busy := by
    decide
  have hreplaced :=
    (replace_wholly_or_not linked hordered ⟨fun _ => none, 1⟩ ⟨"p/b.ts"⟩ [98, 99]).2.1
  have hkept := (replace_wholly_or_not linked hordered
    ⟨fun phase => if phase = .rename then some .busy else none, 1⟩ ⟨"p/b.ts"⟩ [98, 99]).2.1
  rw [hdone] at hreplaced
  rw [hrefused] at hkept
  exact ⟨hordered, hreplaced, hkept⟩

end DesignTokens.Disk
