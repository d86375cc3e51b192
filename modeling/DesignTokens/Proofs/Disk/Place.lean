import DesignTokens.Disk.Storage
import DesignTokens.Proofs.Names.Table

/-! # What stands at a place

To follow a path is to ask, place by place, whether there is a file, a link or a folder. The
contents of files take no part in it. So when files are given other contents, every path leads where
it led before, and what is read is what was written last.

## Main definitions

* `Tree.node?` - what stands at a place, without what is below it
* `Tree.shape?` - the same without the contents of files
* `Disk.HasFile` - whether a path leads to a file without a link at its end
* `Disk.Becomes` - a disk and what it is when files were given other contents

## Main results

* `Disk.locate_congr` - the way of a path depends on shapes alone
* `Disk.read_eq` - what is read depends on the place alone
* `Disk.Becomes.trans` - changes one after the other
* `Disk.Becomes.read` - what is read after changes
-/

namespace DesignTokens

/-- What stands at a place, without what is below it. -/
inductive Tree.Node where
  | file (bytes : Bytes)
  | link (target : String)
  | folder
  deriving Repr, DecidableEq

/-- A node without the content of the file. -/
def Tree.Node.shape : Node → Node
  | file _ => file []
  | other => other

namespace Tree

/-- What stands at the top of a tree. -/
def node : Tree → Node
  | file bytes => .file bytes
  | link target => .link target
  | folder _ => .folder

/-- What stands at a place, without what is below it. -/
def node? (tree : Tree) (place : Place) : Option Node :=
  (tree.get? place).map node

/-- What stands at a place, without the content of the file. -/
def shape? (tree : Tree) (place : Place) : Option Node :=
  (tree.node? place).map Node.shape

theorem shape?_eq_folder_iff {tree : Tree} {place : Place} :
    tree.shape? place = some .folder ↔ tree.node? place = some .folder := by
  rw [shape?]
  cases tree.node? place with
  | none => simp
  | some node => cases node <;> simp [Node.shape]

theorem get?_of_shape?_link {tree : Tree} {place : Place} {target : String}
    (h : tree.shape? place = some (.link target)) : tree.get? place = some (.link target) := by
  rw [shape?, node?, Option.map_map, Option.map_eq_some_iff] at h
  obtain ⟨found, hfound, hlink⟩ := h
  cases found <;> cases hlink
  exact hfound

theorem get?_append (tree : Tree) (place below : Place) :
    tree.get? (place ++ below) = (tree.get? place).bind (·.get? below) := by
  induction place generalizing tree with
  | nil => rfl
  | cons name place ih =>
    rw [List.cons_append, get?, get?]
    cases ByName.get? name tree.entries with
    | none => rfl
    | some child => exact ih child

theorem get?_snoc (tree : Tree) (place : Place) (name : String) :
    tree.get? (place ++ [name]) =
      (tree.get? place).bind fun found => ByName.get? name found.entries := by
  rw [get?_append]
  congr 1
  funext found
  rw [get?]
  cases ByName.get? name found.entries <;> rfl

end Tree

namespace Disk

/-! ### The way of a path -/

section

variable {tree tree' : Tree} {follow : Bool} {place goal : Place} {way : List String}
  {onLink onLink' : Place → List String → Except FileFault Place}

/-- What following a path asks at each place. -/
theorem locateWith_cons (part : String) : locateWith tree follow onLink place (part :: way) =
    match tree.shape? place with
    | none => .error .missing
    | some .folder =>
      if part = "." then locateWith tree follow onLink place way
      else if part = ".." then locateWith tree follow onLink place.dropLast way
      else if Path.isTooLongName part then .error .nameTooLong
      else
        match tree.shape? (place ++ [part]) with
        | none => .error .missing
        | some (.link target) =>
          if way.isEmpty && !follow then .ok (place ++ [part])
          else onLink (if isFromRoot target then [] else place) (parts target ++ way)
        | some _ => locateWith tree follow onLink (place ++ [part]) way
    | some _ => .error .notAFolder := by
  rw [locateWith]
  simp only [Tree.shape?, Tree.node?, Tree.get?_snoc]
  cases tree.get? place with
  | none => rfl
  | some found =>
    cases found with
    | file bytes => rfl
    | link target => rfl
    | folder entries =>
      simp only [Option.map_some, Tree.node, Tree.Node.shape, Option.bind_some, Tree.entries]
      cases ByName.get? part entries with
      | none => rfl
      | some child => cases child <;> rfl

theorem locateWith_congr (hshape : ∀ place, tree.shape? place = tree'.shape? place)
    (place : Place) (way : List String) :
    locateWith tree follow onLink place way = locateWith tree' follow onLink place way := by
  induction way generalizing place with
  | nil => rfl
  | cons part way ih => simp only [locateWith_cons, hshape, ih]

theorem locateFrom_congr (hshape : ∀ place, tree.shape? place = tree'.shape? place)
    (links : Nat) : locateFrom tree follow links = locateFrom tree' follow links := by
  induction links with
  | zero =>
    funext place way
    exact locateWith_congr hshape place way
  | succ links ih =>
    funext place way
    rw [locateFrom, locateFrom, ih]
    exact locateWith_congr hshape place way

/-- What following a path does with the next part of a way: it fails, it goes on from a place, it
ends at a link, or it goes on with the target of a link. -/
inductive Step where
  | fails (fault : FileFault)
  | goes (place : Place)
  | ends (place : Place)
  | links (place : Place) (target : List String)

/-- The step with the next part of a way, where `last` says that a link is not followed there. -/
def step (tree : Tree) (last : Bool) (place : Place) (part : String) : Step :=
  match tree.shape? place with
  | none => .fails .missing
  | some .folder =>
    if part = "." then .goes place
    else if part = ".." then .goes place.dropLast
    else if Path.isTooLongName part then .fails .nameTooLong
    else
      match tree.shape? (place ++ [part]) with
      | none => .fails .missing
      | some (.link target) =>
        if last then .ends (place ++ [part])
        else .links (if isFromRoot target then [] else place) (parts target)
      | some _ => .goes (place ++ [part])
  | some _ => .fails .notAFolder

/-- A way is followed step by step. -/
theorem locateWith_eq_step (part : String) :
    locateWith tree follow onLink place (part :: way) =
      match step tree (way.isEmpty && !follow) place part with
      | .fails fault => .error fault
      | .goes next => locateWith tree follow onLink next way
      | .ends goal => .ok goal
      | .links next target => onLink next (target ++ way) := by
  rw [locateWith_cons]
  fun_cases step tree (way.isEmpty && !follow) place part <;> simp_all

/-- A link that is followed does not end a way. -/
theorem step_ne_ends (place : Place) (part : String) : step tree false place part ≠ .ends goal := by
  fun_cases step tree false place part with
  | case6 _ _ _ _ _ _ hlast => cases hlast
  | _ => exact nofun

/-- A step ends at a link that is not followed, or it is one that follows links. -/
theorem step_ends_or_eq (tree : Tree) (last : Bool) (place : Place) (part : String) :
    (∃ target, tree.shape? (place ++ [part]) = some (.link target) ∧
      step tree last place part = .ends (place ++ [part])) ∨
      step tree last place part = step tree false place part := by
  fun_cases step tree last place part with
  | case6 _ _ _ _ target htarget => exact .inl ⟨target, htarget, rfl⟩
  | _ => simp_all [step]

/-- A step that is taken is taken too when more is put on the tree. -/
theorem step_mono (hshape : ∀ place node, tree.shape? place = some node →
      tree'.shape? place = some node) (last : Bool) (place : Place) (part : String) :
    (∃ fault, step tree last place part = .fails fault) ∨
      step tree' last place part = step tree last place part := by
  rw [step, step]
  cases hplace : tree.shape? place with
  | none => exact .inl ⟨_, rfl⟩
  | some node =>
    rw [hshape place node hplace]
    cases node with
    | file bytes => exact .inl ⟨_, rfl⟩
    | link target => exact .inl ⟨_, rfl⟩
    | folder =>
      cases hbelow : tree.shape? (place ++ [part]) with
      | some below => exact .inr (by rw [hshape _ below hbelow])
      | none =>
        -- Nothing is there, so the step fails unless the part is a point.
        simp only
        split
        · exact .inr rfl
        · split
          · exact .inr rfl
          · split
            · exact .inl ⟨_, rfl⟩
            · exact .inl ⟨_, rfl⟩

/-- A path that leads to a place still does when more is put on the tree. -/
theorem locateWith_mono (hshape : ∀ place node, tree.shape? place = some node →
      tree'.shape? place = some node)
    (hlink : ∀ place way goal, onLink place way = .ok goal → onLink' place way = .ok goal)
    (h : locateWith tree follow onLink place way = .ok goal) :
    locateWith tree' follow onLink' place way = .ok goal := by
  induction way generalizing place with
  | nil => exact h
  | cons part way ih =>
    rw [locateWith_eq_step] at h ⊢
    rcases step_mono hshape (way.isEmpty && !follow) place part with ⟨fault, hfails⟩ | hsame
    · rw [hfails] at h
      cases h
    · rw [hsame]
      generalize step tree (way.isEmpty && !follow) place part = taken at h ⊢
      cases taken with
      | fails fault => cases h
      | goes next => exact ih h
      | ends goal => exact h
      | links next target => exact hlink _ _ _ h

theorem locateFrom_mono (hshape : ∀ place node, tree.shape? place = some node →
      tree'.shape? place = some node) {links : Nat}
    (h : locateFrom tree follow links place way = .ok goal) :
    locateFrom tree' follow links place way = .ok goal := by
  induction links generalizing place way goal with
  | zero => exact locateWith_mono hshape (fun _ _ _ h => h) h
  | succ links ih => exact locateWith_mono hshape (fun _ _ _ h => ih h) h

end

/-! ### Disks -/

section

variable {disk disk' : Disk} {path : Path} {follow : Bool} {place : Place}

/-- The way of a path depends on shapes alone. -/
theorem locate_congr (hhere : disk.here = disk'.here)
    (hshape : ∀ place, disk.tree.shape? place = disk'.tree.shape? place) (follow : Bool)
    (path : Path) : disk.locate follow path = disk'.locate follow path := by
  rw [locate, locate, hhere, locateFrom_congr hshape]

/-- What is read depends on what stands at the place that the path leads to. -/
theorem read_eq (path : Path) : disk.read path =
    match disk.locate true path with
    | .error fault => .error fault
    | .ok place =>
      match disk.tree.node? place with
      | none => .error .missing
      | some (.file bytes) => .ok bytes
      | some _ => .error .isAFolder := by
  rw [read, find]
  cases disk.locate true path with
  | error fault => rfl
  | ok place =>
    simp only [Tree.node?]
    cases disk.tree.get? place with
    | none => rfl
    | some found => cases found <;> rfl

/-- A path leads to a file, and it is not a link at its end that leads there. -/
structure HasFile (disk : Disk) (path : Path) (place : Place) (bytes : Bytes) : Prop where
  locate : ∀ follow, disk.locate follow path = .ok place
  node : disk.tree.node? place = some (.file bytes)

theorem HasFile.read {bytes : Bytes} (h : disk.HasFile path place bytes) :
    disk.read path = .ok bytes := by
  rw [read_eq, h.locate]
  simp only [h.node]

/-! ### Files with other contents -/

/-- A disk is another one where the files at some places were given other contents. -/
structure Becomes (disk : Disk) (changes : List (Place × Bytes)) (disk' : Disk) : Prop where
  here : disk'.here = disk.here
  changed : ∀ change ∈ changes, disk'.tree.node? change.1 = some (.file change.2)
  kept : ∀ place, place ∉ changes.map (·.1) → disk'.tree.node? place = disk.tree.node? place

theorem Becomes.refl (disk : Disk) : disk.Becomes [] disk :=
  ⟨rfl, by simp, fun _ _ => rfl⟩

/-- Changes one after the other, at places of their own. -/
theorem Becomes.trans {disk₁ disk₂ : Disk} {changes more : List (Place × Bytes)}
    (h₁ : disk.Becomes changes disk₁) (h₂ : disk₁.Becomes more disk₂)
    (hdisjoint : ∀ change ∈ changes, change.1 ∉ more.map (·.1)) :
    disk.Becomes (changes ++ more) disk₂ := by
  refine ⟨h₂.here.trans h₁.here, ?_, ?_⟩
  · intro change hchange
    rcases List.mem_append.mp hchange with hchange | hchange
    · rw [h₂.kept change.1 (hdisjoint change hchange)]
      exact h₁.changed change hchange
    · exact h₂.changed change hchange
  · intro place hplace
    rw [List.map_append, List.mem_append, not_or] at hplace
    rw [h₂.kept place hplace.2, h₁.kept place hplace.1]

/-- Where files are given other contents every place keeps its shape. -/
theorem Becomes.shape? {changes : List (Place × Bytes)} (h : disk.Becomes changes disk')
    (hfiles : ∀ change ∈ changes, ∃ bytes, disk.tree.node? change.1 = some (.file bytes))
    (place : Place) : disk'.tree.shape? place = disk.tree.shape? place := by
  by_cases hplace : place ∈ changes.map (·.1)
  · obtain ⟨change, hchange, rfl⟩ := List.mem_map.mp hplace
    obtain ⟨bytes, hbytes⟩ := hfiles change hchange
    rw [Tree.shape?, Tree.shape?, h.changed change hchange, hbytes]
    rfl
  · rw [Tree.shape?, Tree.shape?, h.kept place hplace]

theorem Becomes.locate {changes : List (Place × Bytes)} (h : disk.Becomes changes disk')
    (hfiles : ∀ change ∈ changes, ∃ bytes, disk.tree.node? change.1 = some (.file bytes))
    (follow : Bool) (path : Path) : disk'.locate follow path = disk.locate follow path :=
  locate_congr h.here (h.shape? hfiles) follow path

/-- A path that leads to no place of a change is read as before. -/
theorem Becomes.read {changes : List (Place × Bytes)} (h : disk.Becomes changes disk')
    (hfiles : ∀ change ∈ changes, ∃ bytes, disk.tree.node? change.1 = some (.file bytes))
    (hplace : ∀ place, disk.locate true path = .ok place → place ∉ changes.map (·.1)) :
    disk'.read path = disk.read path := by
  rw [read_eq, read_eq, h.locate hfiles]
  cases hlocate : disk.locate true path with
  | error fault => rfl
  | ok place => simp only [h.kept place (hplace place hlocate)]

theorem Becomes.hasFile {changes : List (Place × Bytes)} {bytes : Bytes}
    (h : disk.Becomes changes disk')
    (hfiles : ∀ change ∈ changes, ∃ bytes, disk.tree.node? change.1 = some (.file bytes))
    (hfile : disk.HasFile path place bytes) (hplace : place ∉ changes.map (·.1)) :
    disk'.HasFile path place bytes :=
  ⟨fun follow => (h.locate hfiles follow path).trans (hfile.locate follow),
    (h.kept place hplace).trans hfile.node⟩

end

end Disk

end DesignTokens
