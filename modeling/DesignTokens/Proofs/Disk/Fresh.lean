import DesignTokens.Proofs.Disk.Replacement
import DesignTokens.Proofs.Walk.Order

/-! # Files with unused names

A new file has a name that no path to be followed goes by: it is not in the path, not on the way to
the folder that paths start from and not in what a link refers to. While the file is there the path
leads where it led, or fails as it failed. What is put into a folder under a new name and taken from
it again leaves the tree as it was, member for member.

## Main definitions

* `Disk.Agree` - two searches end alike, and in no place that a name leads to
* `Disk.Stages` - a disk with a new file under an unused name

## Main results

* `Tree.alterFolder_alterFolder` - changes of a folder one after the other
* `Tree.alterFolder_eq_self` - changes that change nothing
* `Tree.mem_targets_of_shape?` - what a link refers to is among the targets of the tree
* `Disk.agree_locateFrom` - a way that does not go by a name does not depend on what it leads to
* `Disk.Stages.locate`, `Disk.Stages.target` - paths while a new file is there
* `Disk.Stages.discard` - without the new file the disk is the old one
-/

namespace DesignTokens

/-! ### Tables -/

namespace ByName

variable {α : Type} {name : String} {value : α} {table : ByName α}

theorem insert_insert (name : String) (old value : α) (table : ByName α) :
    insert name value (insert name old table) = insert name value table := by
  simp only [insert]
  induction table with
  | nil => simp [alter]
  | cons entry table ih =>
    obtain ⟨first, there⟩ := entry
    rw [alter, alter]
    by_cases heq : name = first
    · rw [if_pos heq, alter, if_pos heq, if_pos heq]
    · rw [if_neg heq, if_neg heq]
      by_cases hlt : nameLt name first = true
      · rw [if_pos hlt, alter, if_pos rfl, if_pos hlt]
      · rw [if_neg hlt, alter, if_neg heq, if_neg hlt, ih, if_neg hlt]

/-- What is filed under a name can be filed there again. -/
theorem insert_eq_self (h : Names.Increasing (table.map (·.1)))
    (hget : get? name table = some value) : insert name value table = table := by
  rw [insert]
  induction table with
  | nil => cases hget
  | cons entry table ih =>
    obtain ⟨first, there⟩ := entry
    obtain ⟨hfirst, htable⟩ := List.pairwise_cons.mp h
    rw [get?] at hget
    rw [alter]
    by_cases heq : name = first
    · rw [if_pos heq] at hget ⊢
      rw [Option.some.inj hget]
    · rw [if_neg heq] at hget ⊢
      -- The name is further on in the table, so that it comes after the first one.
      have hgt := hfirst name (List.mem_map_of_mem (mem_of_get? hget))
      rw [nameLt_asymm hgt, if_neg Bool.false_ne_true, ih htable hget]

/-- What was filed under a new name can be taken away again. -/
theorem filter_ne_insert (h : get? name table = none) :
    List.filter (·.1 ≠ name) (insert name value table) = table := by
  rw [insert]
  induction table with
  | nil => simp [alter]
  | cons entry table ih =>
    obtain ⟨first, there⟩ := entry
    rw [get?] at h
    rw [alter]
    by_cases heq : name = first
    · rw [if_pos heq] at h
      cases h
    · rw [if_neg heq] at h ⊢
      have hkeep : List.filter (·.1 ≠ name) ((first, there) :: table) =
          (first, there) :: List.filter (·.1 ≠ name) table :=
        List.filter_cons_of_pos (by simpa using Ne.symm heq)
      have hself : List.filter (·.1 ≠ name) table = table := by
        rw [List.filter_eq_self]
        rintro ⟨other, found⟩ hmem
        rw [get?_eq_none_iff] at h
        simp only [ne_eq, decide_eq_true_eq]
        rintro rfl
        exact h (List.mem_map_of_mem hmem)
      -- The new entry stands in front of the first one, or behind it.
      by_cases hlt : nameLt name first = true
      · rw [if_pos hlt, List.filter_cons_of_neg (by simp), hkeep, hself]
      · rw [if_neg hlt, List.filter_cons_of_pos (by simpa using Ne.symm heq), ih h]

end ByName

/-! ### Trees -/

namespace Tree

section

variable {tree child leaf : Tree} {start place : Place} {name : String}
  {entries : List (String × Tree)} {change : ByName Tree → ByName Tree}

theorem increasing_of_areOrdered (h : areOrdered entries = true) :
    Names.Increasing (entries.map (·.1)) := by
  induction entries with
  | nil => exact .nil
  | cons entry entries ih =>
    obtain ⟨hfirst, -, hrest⟩ := areOrdered_cons.mp h
    exact .cons hfirst (ih hrest)

/-- Changes of a folder one after the other are one change. -/
theorem alterFolder_alterFolder (f g : ByName Tree → ByName Tree) (tree : Tree) (place : Place) :
    (tree.alterFolder f place).alterFolder g place = tree.alterFolder (g ∘ f) place := by
  induction place generalizing tree with
  | nil => cases tree <;> rfl
  | cons name place ih =>
    cases tree with
    | file bytes => rfl
    | link target => rfl
    | folder entries =>
      rw [alterFolder, alterFolder]
      cases hname : ByName.get? name entries with
      | none =>
        simp only
        rw [alterFolder, hname]
      | some child =>
        simp only
        rw [alterFolder, ByName.get?_insert, if_pos rfl]
        simp only
        rw [ih, ByName.insert_insert]

/-- A change that leaves the members of a folder as they are leaves the tree as it is. -/
theorem alterFolder_eq_self (hordered : tree.isOrdered = true)
    (h : tree.get? place = some (folder entries)) (heq : change entries = entries) :
    tree.alterFolder change place = tree := by
  induction place generalizing tree with
  | nil =>
    obtain rfl := Option.some.inj h
    rw [alterFolder, heq]
  | cons name place ih =>
    rw [get?] at h
    obtain ⟨child, hchild, hbelow⟩ := Option.bind_eq_some_iff.mp h
    cases tree with
    | file bytes => cases hchild
    | link target => cases hchild
    | folder members =>
      rw [Tree.entries] at hchild
      rw [isOrdered] at hordered
      have hchildOrdered := isOrdered_of_mem hordered (ByName.mem_of_get? hchild)
      rw [alterFolder]
      simp only [hchild]
      rw [ih hchildOrdered hbelow,
        ByName.insert_eq_self (increasing_of_areOrdered hordered) hchild]

theorem mem_leavesIn {x : Place × Tree} (h : (name, child) ∈ entries)
    (hx : x ∈ leavesAt (start ++ [name]) child) : x ∈ leavesIn start entries := by
  induction entries with
  | nil => cases h
  | cons entry entries ih =>
    rw [leavesIn, List.mem_append]
    rcases List.mem_cons.mp h with heq | hlater
    · cases heq
      exact .inl hx
    · exact .inr (ih hlater)

/-- What stands at a place is a leaf unless it is a folder. -/
theorem mem_leavesAt (h : tree.get? place = some leaf) (hleaf : leaf.isFolder = false) :
    (start ++ place, leaf) ∈ leavesAt start tree := by
  induction place generalizing tree start with
  | nil =>
    obtain rfl := Option.some.inj h
    cases tree with
    | file bytes => simp [leavesAt]
    | link target => simp [leavesAt]
    | folder entries => cases hleaf
  | cons name place ih =>
    rw [get?] at h
    obtain ⟨child, hchild, hbelow⟩ := Option.bind_eq_some_iff.mp h
    cases tree with
    | file bytes => cases hchild
    | link target => cases hchild
    | folder entries =>
      have hmem : (start ++ [name] ++ place, leaf) ∈ leavesAt (start ++ [name]) child := ih hbelow
      rw [List.append_assoc] at hmem
      exact mem_leavesIn (ByName.mem_of_get? hchild) hmem

theorem mem_targets_of_shape? {target : String} (h : tree.shape? place = some (.link target)) :
    target ∈ tree.targets := by
  have hleaf := get?_of_shape?_link h
  exact List.mem_filterMap.mpr ⟨([] ++ place, .link target), mem_leavesAt hleaf rfl, rfl⟩

end

end Tree

namespace Disk

/-! ### Ways that do not go by a name -/

/-- Two searches for a place end alike, and in no place that a name leads to. -/
structure Agree (name : String) (result result' : Except FileFault Place) : Prop where
  eq : result' = result
  not_mem : ∀ place, result = .ok place → name ∉ place

section

variable {tree tree' : Tree} {follow : Bool} {name : String} {place : Place} {way : List String}
  {onLink onLink' : Place → List String → Except FileFault Place}

theorem agree_error (name : String) (fault : FileFault) :
    Agree name (.error fault) (.error fault) :=
  ⟨rfl, fun _ h => nomatch h⟩

theorem agree_ok (h : name ∉ place) : Agree name (.ok place) (.ok place) :=
  ⟨rfl, fun _ heq => Except.ok.inj heq ▸ h⟩

/-- Two trees that differ only at places that a name leads to, with no link that refers to one. -/
structure SameBut (name : String) (tree tree' : Tree) : Prop where
  shape : ∀ place, name ∉ place → tree'.shape? place = tree.shape? place
  links : ∀ place target, tree.shape? place = some (.link target) → name ∉ parts target

/-- A step that leads to no place by a name, and to no way by it. -/
def Step.Avoids (name : String) : Step → Prop
  | fails _ => True
  | goes next => name ∉ next
  | ends goal => name ∉ goal
  | links next target => name ∉ next ∧ name ∉ target

/-- In two such trees the same steps are taken, as long as none goes by the name. -/
theorem SameBut.step_eq (h : SameBut name tree tree') {part : String} (last : Bool)
    (hplace : name ∉ place) (hpart : name ≠ part) :
    step tree' last place part = step tree last place part := by
  have hbelow : name ∉ place ++ [part] := by simp [hplace, hpart]
  rw [step, step, h.shape place hplace, h.shape _ hbelow]

theorem SameBut.avoids_step (h : SameBut name tree tree') {part : String} (last : Bool)
    (hplace : name ∉ place) (hpart : name ≠ part) : (step tree last place part).Avoids name := by
  have hbelow : name ∉ place ++ [part] := by simp [hplace, hpart]
  fun_cases step tree last place part with
  | case2 => exact hplace
  | case3 => exact fun hmem => hplace (List.dropLast_subset _ hmem)
  | case6 | case8 => exact hbelow
  | case7 _ _ _ _ target htarget =>
    refine ⟨?_, h.links _ target htarget⟩
    split
    · exact List.not_mem_nil
    · exact hplace
  | _ => trivial

theorem agree_locateWith (h : SameBut name tree tree')
    (hlink : ∀ place way, name ∉ place → name ∉ way →
      Agree name (onLink place way) (onLink' place way))
    (hplace : name ∉ place) (hway : name ∉ way) :
    Agree name (locateWith tree follow onLink place way)
      (locateWith tree' follow onLink' place way) := by
  induction way generalizing place with
  | nil => exact agree_ok hplace
  | cons part way ih =>
    rw [List.mem_cons, not_or] at hway
    have havoids := h.avoids_step (way.isEmpty && !follow) hplace hway.1
    rw [locateWith_eq_step, locateWith_eq_step, h.step_eq _ hplace hway.1]
    -- Both ways go on alike from what the step leads to.
    generalize step tree (way.isEmpty && !follow) place part = taken at havoids ⊢
    cases taken with
    | fails fault => exact agree_error name fault
    | goes next => exact ih havoids hway.2
    | ends goal => exact agree_ok havoids
    | links next target => exact hlink _ _ havoids.1 (by simp [havoids.2, hway.2])

/-- A way that does not go by a name does not depend on what the name leads to. -/
theorem agree_locateFrom (h : SameBut name tree tree') (links : Nat) (hplace : name ∉ place)
    (hway : name ∉ way) :
    Agree name (locateFrom tree follow links place way)
      (locateFrom tree' follow links place way) := by
  induction links generalizing place way with
  | zero => exact agree_locateWith h (fun _ _ _ _ => agree_error _ _) hplace hway
  | succ links ih => exact agree_locateWith h (fun _ _ => ih) hplace hway

end

/-! ### Disks with a new file -/

/-- A disk with a new file in one of its folders, under a name that a path does not go by. -/
structure Stages (disk : Disk) (path : Path) (staged : Staged) (content : Bytes) (state : Disk) :
    Prop where
  eq : state = { disk with tree := disk.tree.put staged.folder staged.name (.file content) }
  absent : ∃ entries, disk.tree.get? staged.folder = some (.folder entries) ∧
    ByName.get? staged.name entries = none
  unused : staged.name ∉ disk.wayNames path

section

variable {disk state : Disk} {path : Path} {staged : Staged} {content : Bytes}

theorem stages_create (h : disk.create path = .ok (state, staged)) :
    disk.Stages path staged [] state := by
  unfold create at h
  split at h
  · cases h
  · split at h
    · rename_i entries hentries
      have hfresh := freshName_not_mem (entries.map (·.1) ++ disk.wayNames path)
      generalize freshName (entries.map (·.1) ++ disk.wayNames path) = name at hfresh h
      rw [List.mem_append, not_or] at hfresh
      cases h
      exact ⟨rfl, ⟨entries, hentries, ByName.get?_eq_none_iff.mpr hfresh.1⟩, hfresh.2⟩
    · cases h

theorem Stages.fill (h : disk.Stages path staged content state) (bytes : Bytes) :
    disk.Stages path staged bytes (state.fill staged bytes) := by
  refine ⟨?_, h.absent, h.unused⟩
  rw [Disk.fill, h.eq, Tree.put, Tree.put, Tree.alterFolder_alterFolder, Tree.put]
  congr 2
  funext entries
  exact ByName.insert_insert _ _ _ entries

/-- Without the new file the disk is the old one. -/
theorem Stages.discard (hordered : disk.tree.isOrdered = true)
    (h : disk.Stages path staged content state) : state.discard staged = disk := by
  obtain ⟨entries, hentries, habsent⟩ := h.absent
  rw [Disk.discard, h.eq]
  have hself : (disk.tree.put staged.folder staged.name (.file content)).erase staged.folder
      staged.name = disk.tree := by
    rw [Tree.put, Tree.erase, Tree.alterFolder_alterFolder]
    exact Tree.alterFolder_eq_self hordered hentries (ByName.filter_ne_insert habsent)
  rw [hself]

theorem Stages.gains (h : disk.Stages path staged content state) :
    disk.Gains staged content state := by
  obtain ⟨entries, hentries, habsent⟩ := h.absent
  have hnode : disk.tree.node? staged.folder = some .folder := by
    rw [Tree.node?, hentries]
    rfl
  have hnone : disk.tree.node? (staged.folder ++ [staged.name]) = none := by
    rw [Tree.node?, Tree.get?_snoc, hentries, Option.bind_some, Tree.entries, habsent]
    rfl
  rw [h.eq]
  exact ⟨rfl, hnode, hnone, Tree.node?_put hnode (by simp [Tree.IsFree, hnone]) content⟩

theorem Stages.get?_staged (h : disk.Stages path staged content state) :
    state.tree.get? (staged.folder ++ [staged.name]) = some (.file content) := by
  have hnode := h.gains.node (staged.folder ++ [staged.name])
  rw [if_pos rfl, Tree.node?, Option.map_eq_some_iff] at hnode
  obtain ⟨found, hfound, hfile⟩ := hnode
  cases found <;> cases hfile
  exact hfound

theorem Stages.sameBut (h : disk.Stages path staged content state) :
    SameBut staged.name disk.tree state.tree := by
  constructor
  · intro place hplace
    rw [Tree.shape?, h.gains.node, if_neg]
    · rfl
    · rintro rfl
      exact hplace (by simp)
  · intro place target hshape hmem
    refine h.unused (List.mem_append_right _ ?_)
    exact List.mem_flatMap.mpr ⟨target, Tree.mem_targets_of_shape? hshape, hmem⟩

/-- Where the way of a path starts. -/
theorem Stages.not_mem_start (h : disk.Stages path staged content state) :
    staged.name ∉ (if isFromRoot path.text then [] else disk.here) := by
  split
  · exact List.not_mem_nil
  · intro hmem
    exact h.unused (List.mem_append_left _ (List.mem_append_left _ hmem))

theorem Stages.not_mem_parts (h : disk.Stages path staged content state) :
    staged.name ∉ parts path.text :=
  fun hmem => h.unused (List.mem_append_left _ (List.mem_append_right _ hmem))

/-- The path leads where it led, and not to the new file. -/
theorem Stages.locate (h : disk.Stages path staged content state) (follow : Bool) :
    Agree staged.name (disk.locate follow path) (state.locate follow path) := by
  rw [Disk.locate, Disk.locate]
  cases path.fault? with
  | some fault => exact agree_error _ _
  | none =>
    simp only [h.gains.here]
    exact agree_locateFrom h.sameBut maxLinks h.not_mem_start h.not_mem_parts

/-- A file is renamed to the place that it would have been renamed to. -/
theorem Stages.target (h : disk.Stages path staged content state) :
    state.target path = disk.target path := by
  rw [target_eq, target_eq]
  cases path.fault? with
  | some fault => rfl
  | none =>
    cases hparts : (parts path.text).reverse with
    | nil => rfl
    | cons last before =>
      rw [List.reverse_eq_cons_iff] at hparts
      have hnotMem := h.not_mem_parts
      rw [hparts, List.mem_append, not_or, List.mem_singleton] at hnotMem
      -- The way to the folder does not meet the new file, whose name no path has.
      have hagree : Agree staged.name (locateFrom disk.tree true maxLinks _ before.reverse) _ :=
        agree_locateFrom h.sameBut maxLinks h.not_mem_start hnotMem.1
      simp only [h.gains.here, hagree.eq]
      congr 2
      cases hfolder : locateFrom disk.tree true maxLinks
          (if isFromRoot path.text then [] else disk.here) before.reverse with
      | error fault => rfl
      | ok folder =>
        have hplace := hagree.not_mem folder hfolder
        simp only [h.sameBut.shape folder hplace,
          h.sameBut.shape (folder ++ [last]) (by simp [hplace, hnotMem.2])]

/-- What is read at the path is what was read before. -/
theorem Stages.read (h : disk.Stages path staged content state) :
    state.read path = disk.read path := by
  have hlocate := h.locate true
  rw [read_eq, read_eq, hlocate.eq]
  cases hplace : disk.locate true path with
  | error fault => rfl
  | ok place =>
    have hne : place ≠ staged.folder ++ [staged.name] := by
      rintro rfl
      exact hlocate.not_mem _ hplace (by simp)
    simp only [h.gains.node, if_neg hne]

end

end Disk

end DesignTokens
