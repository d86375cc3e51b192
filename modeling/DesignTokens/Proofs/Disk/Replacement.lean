import DesignTokens.Disk.Replace
import DesignTokens.Proofs.Disk.Below

/-! # Files that are replaced

A file is put into a folder or taken from it, and nothing else changes. A file that is replaced by
way of a new one therefore has its new content, the new file is gone, and every other place is as it
was; and when the replacement fails, every place is.

## Main results

* `Tree.node?_put`, `Tree.node?_erase` - what stands at places of a changed tree
* `Disk.target_eq_ok_iff` - where a file is renamed to
* `Disk.target_eq_ok` - that is the place that its path leads to
* `Disk.becomes_replace` - what replacing a file does
-/

namespace DesignTokens

theorem ByName.get?_filter_ne {α : Type} (name other : String) (table : ByName α) :
    get? other (List.filter (·.1 ≠ name) table) =
      if other = name then none else get? other table := by
  induction table with
  | nil => simp [get?]
  | cons entry table ih =>
    obtain ⟨first, value⟩ := entry
    by_cases hfirst : first = name
    · subst hfirst
      rw [List.filter_cons_of_neg (by simp), ih, get?]
      split <;> simp_all
    · rw [List.filter_cons_of_pos (by simpa using hfirst), get?, get?, ih]
      by_cases hother : other = first
      · subst hother
        simp [hfirst]
      · simp [hother]

namespace Tree

section

variable {tree child : Tree} {place : Place} {name : String} {entries : List (String × Tree)}
  {change : ByName Tree → ByName Tree}

/-- Below a folder that was changed stands what the change put there. -/
theorem get?_alterFolder (h : tree.get? place = some (folder entries)) (below : String)
    (rest : Place) : (tree.alterFolder change place).get? (place ++ below :: rest) =
      (ByName.get? below (change entries)).bind (·.get? rest) := by
  induction place generalizing tree with
  | nil =>
    obtain rfl := Option.some.inj h
    rfl
  | cons first place ih =>
    rw [get?] at h
    obtain ⟨next, hnext, hbelow⟩ := Option.bind_eq_some_iff.mp h
    cases tree with
    | file bytes => cases hnext
    | link target => cases hnext
    | folder members =>
      rw [Tree.entries] at hnext
      rw [alterFolder]
      simp only [hnext]
      rw [List.cons_append, get?, Tree.entries, ByName.get?_insert, if_pos rfl]
      exact ih hbelow

/-- Elsewhere stands what stood there. -/
theorem node?_alterFolder (h : tree.get? place = some (folder entries)) {other : Place}
    (hother : ∀ below rest, other ≠ place ++ below :: rest) :
    (tree.alterFolder change place).node? other = tree.node? other := by
  induction place generalizing tree other with
  | nil =>
    obtain rfl := Option.some.inj h
    cases other with
    | nil => rfl
    | cons first other => exact absurd rfl (hother first other)
  | cons first place ih =>
    rw [get?] at h
    obtain ⟨next, hnext, hbelow⟩ := Option.bind_eq_some_iff.mp h
    cases tree with
    | file bytes => cases hnext
    | link target => cases hnext
    | folder members =>
      rw [Tree.entries] at hnext
      rw [alterFolder]
      simp only [hnext]
      cases other with
      | nil => rfl
      | cons start other =>
        rw [node?, node?, get?, get?, Tree.entries, Tree.entries, ByName.get?_insert]
        -- Only what stands below the first name of the place is changed.
        by_cases hstart : start = first
        · subst hstart
          rw [if_pos rfl, hnext]
          refine ih hbelow fun below rest heq => hother below rest ?_
          rw [heq, List.cons_append]
        · rw [if_neg hstart]

/-- At a place there is no folder, so that there is nothing below it. -/
def IsFree (tree : Tree) (place : Place) : Prop :=
  tree.node? place ≠ some .folder

theorem IsFree.node?_below (h : tree.IsFree place) (below : String) (rest : Place) :
    tree.node? (place ++ below :: rest) = none := by
  rw [IsFree, node?] at h
  rw [node?, get?_append]
  cases hfound : tree.get? place with
  | none => rfl
  | some found =>
    rw [hfound] at h
    cases found with
    | file bytes => rfl
    | link target => rfl
    | folder entries => exact absurd rfl h

theorem exists_entries_of_node? (h : tree.node? place = some .folder) :
    ∃ entries, tree.get? place = some (folder entries) := by
  rw [node?] at h
  obtain ⟨found, hfound, hnode⟩ := Option.map_eq_some_iff.mp h
  cases found with
  | file bytes => cases hnode
  | link target => cases hnode
  | folder entries => exact ⟨entries, hfound⟩

/-- A place is below a member of a folder or is left alone when the member changes. -/
theorem cases_place (place : Place) (name : String) (other : Place) :
    (∃ rest, other = place ++ name :: rest) ∨ (∃ below rest, below ≠ name ∧
      other = place ++ below :: rest) ∨ ∀ below rest, other ≠ place ++ below :: rest := by
  by_cases h : ∃ below rest, other = place ++ below :: rest
  · obtain ⟨below, rest, rfl⟩ := h
    by_cases hname : below = name
    · exact .inl ⟨rest, by rw [hname]⟩
    · exact .inr (.inl ⟨below, rest, hname, rfl⟩)
  · exact .inr (.inr fun below rest heq => h ⟨below, rest, heq⟩)

/-- A file that is put into a folder stands there, and every other place is as it was. -/
theorem node?_put (h : tree.node? place = some .folder) (hfree : tree.IsFree (place ++ [name]))
    (bytes : Bytes) (other : Place) : (tree.put place name (file bytes)).node? other =
      if other = place ++ [name] then some (.file bytes) else tree.node? other := by
  obtain ⟨entries, hentries⟩ := exists_entries_of_node? h
  rw [put]
  -- The other place is at the new file or below it, below another entry of the folder, or
  -- elsewhere.
  rcases cases_place place name other with ⟨rest, rfl⟩ | ⟨below, rest, hne, rfl⟩ | hother
  · rw [node?, get?_alterFolder hentries, ByName.get?_insert, if_pos rfl]
    cases rest with
    | nil =>
      rw [if_pos rfl]
      rfl
    | cons below rest =>
      have hbelow := hfree.node?_below below rest
      rw [List.append_assoc] at hbelow
      rw [if_neg (by simp)]
      exact hbelow.symm
  · rw [node?, get?_alterFolder hentries, ByName.get?_insert, if_neg hne,
      if_neg (by simp [hne]), node?, get?_append, hentries]
    rfl
  · rw [node?_alterFolder hentries hother, if_neg fun heq => hother name [] heq]

/-- A file that is taken from a folder is gone, and every other place is as it was. -/
theorem node?_erase (h : tree.node? place = some .folder) (hfree : tree.IsFree (place ++ [name]))
    (other : Place) : (tree.erase place name).node? other =
      if other = place ++ [name] then none else tree.node? other := by
  obtain ⟨entries, hentries⟩ := exists_entries_of_node? h
  rw [erase]
  -- The other place is at the file or below it, below another entry of the folder, or elsewhere.
  rcases cases_place place name other with ⟨rest, rfl⟩ | ⟨below, rest, hne, rfl⟩ | hother
  · rw [node?, get?_alterFolder hentries, ByName.get?_filter_ne, if_pos rfl]
    cases rest with
    | nil => simp
    | cons below rest =>
      have hbelow := hfree.node?_below below rest
      rw [List.append_assoc] at hbelow
      rw [if_neg (by simp)]
      exact hbelow.symm
  · rw [node?, get?_alterFolder hentries, ByName.get?_filter_ne, if_neg hne,
      if_neg (by simp [hne]), node?, get?_append, hentries]
    rfl
  · rw [node?_alterFolder hentries hother, if_neg fun heq => hother name [] heq]

end

end Tree

namespace Disk

variable {disk created : Disk} {path : Path} {place : Place} {bytes content : Bytes}

theorem le_foldl_max (lengths : List Nat) (least : Nat) :
    least ≤ lengths.foldl max least ∧ ∀ n ∈ lengths, n ≤ lengths.foldl max least := by
  induction lengths generalizing least with
  | nil => simp
  | cons first lengths ih =>
    obtain ⟨hleast, hall⟩ := ih (max least first)
    rw [List.foldl_cons, List.forall_mem_cons]
    exact ⟨by omega, by omega, hall⟩

theorem lt_length_of_replicate (n : Nat) (start tail : Text) (h : 0 < tail.length) :
    n < (String.ofList (start ++ List.replicate n '0' ++ tail)).length := by
  rw [String.length_ofList]
  simp only [List.length_append, List.length_replicate]
  omega

theorem lt_length_freshName (taken : List String) :
    (taken.map String.length).foldl max 0 < (freshName taken).length :=
  lt_length_of_replicate _ _ _ (by decide)

/-- The name of a new file is none of those that are taken. -/
theorem freshName_not_mem (taken : List String) : freshName taken ∉ taken := by
  have hlong := lt_length_freshName taken
  generalize freshName taken = name at hlong ⊢
  intro hmem
  have hle := (le_foldl_max (taken.map String.length) 0).2 name.length (List.mem_map_of_mem hmem)
  omega

/-- Where a last name leads that is not followed. -/
theorem locateWith_name {tree : Tree} {name : String} (hpoint : name ≠ ".") (hpoints : name ≠ "..")
    (onLink : Place → List String → Except FileFault Place) :
    locateWith tree false onLink place [name] =
      match tree.shape? place with
      | none => .error .missing
      | some .folder =>
        if Path.isTooLongName name then .error .nameTooLong
        else if tree.shape? (place ++ [name]) = none then .error .missing
        else .ok (place ++ [name])
      | some _ => .error .notAFolder := by
  rw [locateWith_cons]
  simp only [hpoint, hpoints, if_false]
  cases tree.shape? place with
  | none => rfl
  | some node =>
    cases node with
    | file bytes => rfl
    | link target => rfl
    | folder =>
      simp only
      split
      · rfl
      · cases tree.shape? (place ++ [name]) with
        | none => rfl
        | some below => cases below <;> rfl

/-- What the search for the place that a file is renamed to asks. -/
theorem target_eq (disk : Disk) (path : Path) : disk.target path =
    match path.fault?, (parts path.text).reverse with
    | some fault, _ => .error fault
    | none, [] => .error .busy
    | none, name :: before =>
      if name = "." || name = ".." then .error .busy
      else if Path.isTooLongName name then .error .nameTooLong
      else
        match locateFrom disk.tree true maxLinks (if isFromRoot path.text then [] else disk.here)
            before.reverse with
        | .error fault => .error fault
        | .ok folder =>
          match disk.tree.shape? folder with
          | some .folder =>
            match disk.tree.shape? (folder ++ [name]) with
            | some .folder => .error .isAFolder
            | _ => .ok (folder, name)
          | _ => .error .notAFolder := by
  rw [target]
  cases path.fault? with
  | some fault => rfl
  | none =>
    cases (parts path.text).reverse with
    | nil => rfl
    | cons name before =>
      simp only [Tree.shape?, Tree.node?, Tree.get?_snoc]
      congr 2
      cases locateFrom disk.tree true maxLinks (if isFromRoot path.text then [] else disk.here)
          before.reverse with
      | error fault => rfl
      | ok folder =>
        simp only
        cases disk.tree.get? folder with
        | none => rfl
        | some found =>
          cases found with
          | file bytes => rfl
          | link target => rfl
          | folder entries =>
            simp only [Option.map_some, Tree.node, Tree.Node.shape, Option.bind_some, Tree.entries]
            cases ByName.get? name entries with
            | none => rfl
            | some child => cases child <;> rfl

/-- Where a file is renamed to: the last name of the path, which is not that of a folder, in the
folder that the names before it lead to. -/
theorem target_eq_ok_iff {folder : Place} {name : String} : disk.target path = .ok (folder, name) ↔
    path.fault? = none ∧ name ≠ "." ∧ name ≠ ".." ∧ Path.isTooLongName name = false ∧
      (∃ before, parts path.text = before ++ [name] ∧ locateFrom disk.tree true maxLinks
        (if isFromRoot path.text then [] else disk.here) before = .ok folder) ∧
      disk.tree.shape? folder = some .folder ∧
      disk.tree.shape? (folder ++ [name]) ≠ some .folder := by
  constructor
  · fun_cases target disk path with
    | case7 last before hparts hfault hpoint hlong goal hgoal entries hget hmember =>
      rintro ⟨⟩
      rw [Bool.or_eq_true, not_or, decide_eq_true_eq, decide_eq_true_eq] at hpoint
      have hfolder : disk.tree.shape? folder = some .folder := by
        rw [Tree.shape?, Tree.node?, hget]
        rfl
      refine ⟨hfault, hpoint.1, hpoint.2, Bool.eq_false_iff.mpr hlong,
        ⟨_, List.reverse_eq_cons_iff.mp hparts, hgoal⟩, hfolder, fun hshape => ?_⟩
      obtain ⟨below, hbelow⟩ :=
        Tree.exists_entries_of_node? (Tree.shape?_eq_folder_iff.mp hshape)
      rw [Tree.get?_snoc, hget] at hbelow
      exact hmember below hbelow
    | _ =>
      intro h
      cases h
  · rintro ⟨hfault, hpoint, hpoints, hlong, ⟨before, hparts, hgoal⟩, hfolder, hmember⟩
    rw [target_eq, hfault, hparts, List.reverse_append, List.reverse_singleton,
      List.singleton_append]
    simp only [hpoint, hpoints, hlong, decide_false, Bool.or_false, Bool.false_eq_true, if_false,
      List.reverse_reverse, hgoal, hfolder]

/-- A file is renamed to the place that its path leads to. -/
theorem target_eq_ok {folder : Place} {name : String} (h : disk.target path = .ok (folder, name))
    (hlocate : disk.locate false path = .ok place) :
    folder ++ [name] = place ∧ disk.tree.node? folder = some .folder := by
  obtain ⟨hfault, hpoint, hpoints, -, ⟨before, hparts, hgoal⟩, hfolder, -⟩ :=
    target_eq_ok_iff.mp h
  refine ⟨?_, Tree.shape?_eq_folder_iff.mp hfolder⟩
  have hend := locateFrom_append (List.cons_ne_nil name []) (locateWith_name hpoint hpoints) hgoal
  rw [locate, hfault] at hlocate
  simp only [hparts, hend, hfolder] at hlocate
  split at hlocate
  · cases hlocate
  · split at hlocate
    · cases hlocate
    · exact Except.ok.inj hlocate

/-! ### All phases -/

@[simp] theorem fault?_noRefusals (phase : Phase) : noRefusals.fault? phase = none := rfl

/-- A disk with a new file differs from the one before at the place of the file, where nothing
stood. -/
structure Gains (disk : Disk) (staged : Staged) (content : Bytes) (created : Disk) : Prop where
  here : created.here = disk.here
  folder : disk.tree.node? staged.folder = some .folder
  absent : disk.tree.node? (staged.folder ++ [staged.name]) = none
  node : ∀ place, created.tree.node? place =
    if place = staged.folder ++ [staged.name] then some (.file content)
    else disk.tree.node? place

section

variable {staged : Staged}

theorem gains_create (h : disk.create path = .ok (created, staged)) :
    disk.Gains staged [] created := by
  unfold create at h
  split at h
  · cases h
  · rename_i folder hfolder
    split at h
    · rename_i entries hentries
      -- The name is neither in the folder nor on the way to it.
      have hfresh := freshName_not_mem (entries.map (·.1) ++ disk.wayNames path)
      generalize freshName (entries.map (·.1) ++ disk.wayNames path) = name at hfresh h
      rw [List.mem_append, not_or] at hfresh
      cases h
      have hnode : disk.tree.node? folder = some .folder := by
        rw [Tree.node?, hentries]
        rfl
      have habsent : disk.tree.node? (folder ++ [name]) = none := by
        rw [Tree.node?, Tree.get?_snoc, hentries, Option.bind_some, Tree.entries,
          ByName.get?_eq_none_iff.mpr hfresh.1]
        rfl
      have hfree : disk.tree.IsFree (folder ++ [name]) := by simp [Tree.IsFree, habsent]
      exact ⟨rfl, hnode, habsent, Tree.node?_put hnode hfree []⟩
    · cases h

/-- The folder of a new file still is a folder. -/
theorem Gains.folder_created (h : disk.Gains staged content created) :
    created.tree.node? staged.folder = some .folder := by
  rw [h.node, if_neg (by simp), h.folder]

theorem Gains.isFree (h : disk.Gains staged content created) :
    created.tree.IsFree (staged.folder ++ [staged.name]) := by
  simp [Tree.IsFree, h.node]

theorem Gains.fill (h : disk.Gains staged content created) (bytes : Bytes) :
    disk.Gains staged bytes (created.fill staged bytes) := by
  refine ⟨h.here, h.folder, h.absent, fun place => ?_⟩
  rw [Disk.fill, Tree.node?_put h.folder_created h.isFree, h.node]
  split <;> rfl

/-- Without the new file the disk is as it was. -/
theorem Gains.discard (h : disk.Gains staged content created) :
    disk.Becomes [] (created.discard staged) := by
  refine ⟨h.here, by simp, fun place _ => ?_⟩
  rw [Disk.discard, Tree.node?_erase h.folder_created h.isFree, h.node]
  split
  · rename_i heq
    rw [heq, h.absent]
  · rfl

/-- Every path leads where it led before. -/
theorem Gains.locate (h : disk.Gains staged content created) {follow : Bool}
    (hlocate : disk.locate follow path = .ok place) : created.locate follow path = .ok place := by
  have hfault := fault?_eq_none_of_locate hlocate
  have hshape : ∀ place node, disk.tree.shape? place = some node →
      created.tree.shape? place = some node := by
    intro place node hnode
    rw [Tree.shape?, h.node, if_neg]
    · exact hnode
    · rintro rfl
      rw [Tree.shape?, h.absent] at hnode
      cases hnode
  rw [Disk.locate, hfault] at hlocate ⊢
  rw [h.here]
  exact locateFrom_mono hshape hlocate

/-- What a renaming that succeeds does: the new file goes to where the path leads. -/
theorem rename_eq_ok {after : Disk} (h : disk.rename staged path = .ok after) :
    ∃ folder name file, disk.target path = .ok (folder, name) ∧
      disk.tree.get? (staged.folder ++ [staged.name]) = some file ∧
      after = { disk with
        tree := (disk.tree.erase staged.folder staged.name).put folder name file } := by
  rw [Disk.rename] at h
  split at h
  · cases h
  · rename_i folder name htarget
    split at h
    · cases h
    · rename_i file hget
      exact ⟨folder, name, file, htarget, hget, (Except.ok.inj h).symm⟩

/-- A file that is put on a disk is all that is changed there. -/
theorem Becomes.put {after : Disk} {folder : Place} {name : String} (h : disk.Becomes [] after)
    (hfolder : disk.tree.node? folder = some .folder)
    (hfree : disk.tree.IsFree (folder ++ [name])) (content : Bytes) :
    disk.Becomes [(folder ++ [name], content)]
      { after with tree := after.tree.put folder name (.file content) } := by
  have hkept : ∀ place, after.tree.node? place = disk.tree.node? place :=
    fun place => h.kept place (by simp)
  have hput := Tree.node?_put ((hkept folder).trans hfolder)
    (by rwa [Tree.IsFree, hkept]) content
  refine ⟨h.here, ?_, ?_⟩
  · intro change hchange
    obtain rfl := List.mem_singleton.mp hchange
    rw [hput, if_pos rfl]
  · intro other hother
    rw [hput, if_neg (by simpa using hother), hkept]

/-- A new file that takes the place of the file at a path leaves the disk with the new content. -/
theorem Gains.rename (h : disk.Gains staged content created) (hfile : disk.HasFile path place bytes)
    {after : Disk} (hrename : created.rename staged path = .ok after) :
    disk.Becomes [(place, content)] after := by
  obtain ⟨folder, name, file, htarget, hget, rfl⟩ := rename_eq_ok hrename
  obtain ⟨rfl, hfolder⟩ := target_eq_ok htarget (h.locate (hfile.locate false))
  obtain rfl : file = .file content := by
    have hnode := h.node (staged.folder ++ [staged.name])
    rw [if_pos rfl, Tree.node?, hget] at hnode
    cases file <;> cases hnode
    rfl
  have hfolder' : disk.tree.node? folder = some .folder := by
    rw [h.node] at hfolder
    split at hfolder
    · cases hfolder
    · exact hfolder
  have hfree : disk.tree.IsFree (folder ++ [name]) := by simp [Tree.IsFree, hfile.node]
  exact h.discard.put hfolder' hfree content

end

/-- Replacing a file that a path leads to gives it the new content and changes nothing else, or it
fails and changes nothing. -/
theorem becomes_replace (hfile : disk.HasFile path place bytes) (content : Bytes) :
    match (disk.replace noRefusals path content).result with
    | .ok () => disk.Becomes [(place, content)] (disk.replace noRefusals path content).disk
    | .error _ => disk.Becomes [] (disk.replace noRefusals path content).disk := by
  simp only [replace, stage, commit, fault?_noRefusals, Option.elim_none, Option.none_or, ite_self]
  cases hcreate : disk.create path with
  | error fault => exact .refl disk
  | ok pair =>
    obtain ⟨created, staged⟩ := pair
    have hgains := ((gains_create hcreate).fill (content.take noRefusals.written)).fill content
    simp only
    cases hrename : ((created.fill staged (content.take noRefusals.written)).fill staged
        content).rename staged path with
    | error fault => exact hgains.discard
    | ok after => exact hgains.rename hfile hrename

end Disk

end DesignTokens
