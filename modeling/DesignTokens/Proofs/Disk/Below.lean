import DesignTokens.Proofs.Disk.Place
import DesignTokens.Proofs.Path

/-! # Places below a root

Where a path leads to a folder, the same path with names after it leads to what the names lead to
from there. No link is met on that part of the way, so a path that leads to a file this way leads to
that file and to no other.

## Main definitions

* `Disk.descend` - where names lead from a place
* `Disk.LeadsTo` - where a path leads that no link at its end can send elsewhere
* `Disk.Apart` - whether two paths lead to different places

## Main results

* `Disk.locate_join` - where a path below a root leads
* `Disk.leadsTo_join` - such a path leads to the file below the root
* `Disk.rootOf_of_isFolder` - a walk begins with the folder that its root leads to
-/

namespace DesignTokens

namespace Disk

/-! ### Names after a way -/

section

variable {tree : Tree} {follow : Bool} {place goal start : Place} {way names : List String}

/-- Where names lead from a place: down, unless one of them is too long. -/
def descend (place : Place) (names : List String) : Except FileFault Place :=
  if names.any Path.isTooLongName then .error .nameTooLong else .ok (place ++ names)

theorem shape?_of_get?_cons {name : String} {found : Tree}
    (h : tree.get? (place ++ name :: names) = some found) : tree.shape? place = some .folder := by
  rw [Tree.get?_append] at h
  obtain ⟨above, habove, h⟩ := Option.bind_eq_some_iff.mp h
  obtain ⟨child, hchild, -⟩ := Option.bind_eq_some_iff.mp h
  rw [Tree.shape?, Tree.node?, habove]
  cases above with
  | file bytes => cases hchild
  | link target => cases hchild
  | folder entries => rfl

theorem locateWith_names {bytes : Bytes} {onLink : Place → List String → Except FileFault Place}
    (hnames : ∀ name ∈ names, Path.isName name = true)
    (hfile : tree.get? (place ++ names) = some (.file bytes)) :
    locateWith tree follow onLink place names = descend place names := by
  induction names generalizing place with
  | nil => simp [locateWith, descend]
  | cons name names ih =>
    obtain ⟨hpoint, hpoints⟩ := Path.ne_point_of_isName (hnames name List.mem_cons_self)
    have hbelow : tree.get? (place ++ [name] ++ names) = some (.file bytes) := by
      simpa using hfile
    have hrest := ih (fun n hn => hnames n (List.mem_cons_of_mem name hn)) hbelow
    -- The next place is the file itself or a folder on the way to it, and never a link.
    have hshape : tree.shape? (place ++ [name]) = some .folder ∨
        tree.shape? (place ++ [name]) = some (.file []) := by
      cases names with
      | nil =>
        right
        rw [List.append_nil] at hbelow
        rw [Tree.shape?, Tree.node?, hbelow]
        rfl
      | cons next names => exact .inl (shape?_of_get?_cons hbelow)
    rw [locateWith_cons, shape?_of_get?_cons hfile]
    simp only [hpoint, hpoints, if_false, descend, List.any_cons]
    by_cases hlong : Path.isTooLongName name = true
    · simp [hlong]
    · rw [if_neg hlong]
      rw [descend] at hrest
      rcases hshape with hshape | hshape <;> simp [hshape, hrest, hlong]

/-- Names after a way that leads to a place lead on from there. -/
theorem locateWith_append {onLink onLink' : Place → List String → Except FileFault Place}
    {result : Except FileFault Place} (hne : names ≠ [])
    (hnames : locateWith tree follow onLink' goal names = result)
    (h : locateWith tree true onLink place way = .ok goal)
    (hlink : ∀ place way, onLink place way = .ok goal → onLink' place (way ++ names) = result) :
    locateWith tree follow onLink' place (way ++ names) = result := by
  induction way generalizing place with
  | nil =>
    obtain rfl := Except.ok.inj h
    exact hnames
  | cons part way ih =>
    -- The step is the same, as no link ends the way, neither before the names nor there.
    have hway : (way ++ names).isEmpty = false := by simp [hne]
    rw [locateWith_eq_step, Bool.not_true, Bool.and_false] at h
    rw [List.cons_append, locateWith_eq_step, hway, Bool.false_and]
    have hfollowed : ∀ next, step tree false place part ≠ .ends next :=
      fun next => step_ne_ends place part
    generalize step tree false place part = taken at h hfollowed ⊢
    cases taken with
    | fails fault => cases h
    | goes next => exact ih h
    | ends next => exact absurd rfl (hfollowed next)
    | links next target =>
      simp only at h ⊢
      rw [← List.append_assoc]
      exact hlink _ _ h

theorem locateFrom_append {result : Except FileFault Place} (hne : names ≠ [])
    (hnames : ∀ onLink, locateWith tree follow onLink goal names = result) {links : Nat}
    (h : locateFrom tree true links start way = .ok goal) :
    locateFrom tree follow links start (way ++ names) = result := by
  induction links generalizing start way with
  | zero => exact locateWith_append hne (hnames _) h fun _ _ h => nomatch h
  | succ links ih => exact locateWith_append hne (hnames _) h fun _ _ h => ih h

theorem locateWith_of_point {onLink onLink' : Place → List String → Except FileFault Place}
    (h : locateWith tree true onLink start (way ++ ["."]) = .ok goal)
    (hlink : ∀ place way, onLink place (way ++ ["."]) = .ok goal → onLink' place way = .ok goal) :
    locateWith tree true onLink' start way = .ok goal := by
  induction way generalizing start with
  | nil =>
    rw [List.nil_append, locateWith_cons] at h
    split at h
    · cases h
    · exact h
    · cases h
  | cons part way ih =>
    rw [List.cons_append, locateWith_eq_step, Bool.not_true, Bool.and_false] at h
    rw [locateWith_eq_step, Bool.not_true, Bool.and_false]
    have hfollowed : ∀ next, step tree false start part ≠ .ends next :=
      fun next => step_ne_ends start part
    generalize step tree false start part = taken at h hfollowed ⊢
    cases taken with
    | fails fault => cases h
    | goes next => exact ih h
    | ends next => exact absurd rfl (hfollowed next)
    | links next target =>
      simp only at h
      rw [← List.append_assoc] at h
      exact hlink _ _ h

/-- A point at the end of a way leads nowhere else. -/
theorem locateFrom_of_point {links : Nat}
    (h : locateFrom tree true links start (way ++ ["."]) = .ok goal) :
    locateFrom tree true links start way = .ok goal := by
  induction links generalizing start way with
  | zero => exact locateWith_of_point h fun _ _ h => nomatch h
  | succ links ih => exact locateWith_of_point h fun _ _ h => ih h

/-- A path that is not followed at its end leads to a link, or where it leads anyway. -/
theorem locateWith_follow {onLink onLink' : Place → List String → Except FileFault Place}
    (hlink : ∀ place way,
      (∃ p target, onLink place way = .ok p ∧ tree.shape? p = some (.link target)) ∨
        onLink' place way = onLink place way) (way : List String) (place : Place) :
    (∃ p target, locateWith tree false onLink place way = .ok p ∧
        tree.shape? p = some (.link target)) ∨
      locateWith tree true onLink' place way = locateWith tree false onLink place way := by
  induction way generalizing place with
  | nil => exact .inr rfl
  | cons part way ih =>
    rw [locateWith_eq_step, locateWith_eq_step, Bool.not_true, Bool.not_false, Bool.and_false,
      Bool.and_true]
    rcases step_ends_or_eq tree way.isEmpty place part with ⟨target, htarget, hends⟩ | hsame
    · rw [hends]
      exact .inl ⟨_, target, rfl, htarget⟩
    · rw [hsame]
      cases hstep : step tree false place part with
      | fails fault => exact .inr rfl
      | goes next => exact ih next
      | ends next => exact absurd hstep (step_ne_ends place part)
      | links next target => exact hlink _ _

theorem locateFrom_follow (links : Nat) (start : Place) (way : List String) :
    (∃ p target, locateFrom tree false links start way = .ok p ∧
        tree.shape? p = some (.link target)) ∨
      locateFrom tree true links start way = locateFrom tree false links start way := by
  induction links generalizing start way with
  | zero => exact locateWith_follow (fun _ _ => .inr rfl) way start
  | succ links ih => exact locateWith_follow ih way start

end

/-! ### Paths below a root -/

/-- A path leads to a file, and it is not a link at its end that leads there, or it leads nowhere.
-/
inductive LeadsTo (disk : Disk) (path : Path) (place : Place) : Prop where
  | file (bytes : Bytes) (h : disk.HasFile path place bytes)
  | nowhere (fault : FileFault) (h : ∀ follow, disk.locate follow path = .error fault)

/-- Two paths do not lead to the same place. -/
def Apart (disk : Disk) (path other : Path) : Prop :=
  ∀ place, disk.locate true path = .ok place → disk.locate true other ≠ .ok place

section

variable {disk : Disk} {root path : Path} {place goal : Place}

theorem LeadsTo.eq {place' : Place} {follow : Bool} (h : disk.LeadsTo path place)
    (hlocate : disk.locate follow path = .ok place') : place' = place := by
  cases h with
  | file bytes h =>
    rw [h.locate] at hlocate
    exact (Except.ok.inj hlocate).symm
  | nowhere fault h =>
    rw [h] at hlocate
    cases hlocate

/-- A path of a walk that can be read leads to a file. -/
theorem LeadsTo.hasFile {bytes : Bytes} (h : disk.LeadsTo path place)
    (hread : disk.read path = .ok bytes) : disk.HasFile path place bytes := by
  cases h with
  | file found h =>
    rw [h.read] at hread
    exact Except.ok.inj hread ▸ h
  | nowhere fault h =>
    rw [read_eq, h] at hread
    cases hread

theorem fault?_eq_none_of_locate {follow : Bool} (h : disk.locate follow path = .ok place) :
    path.fault? = none := by
  rw [locate] at h
  cases hfault : path.fault? with
  | none => rfl
  | some fault =>
    rw [hfault] at h
    cases h

theorem toList_ne_nil_of_locate {follow : Bool} (h : disk.locate follow path = .ok place) :
    path.text.toList ≠ [] := by
  intro hnil
  have hempty : path.text = "" := String.toList_injective hnil
  have hfault := fault?_eq_none_of_locate h
  rw [Path.fault?, Path.hasNull, hempty] at hfault
  cases hfault

/-- A path below a root leads to what the names lead to from there, unless it is too long. -/
theorem locate_join {names : List String} {bytes : Bytes} (hroot : disk.locate true root = .ok goal)
    (hne : names ≠ []) (hnames : ∀ name ∈ names, Path.isName name = true)
    (hfile : disk.tree.get? (goal ++ names) = some (.file bytes)) (follow : Bool) :
    disk.locate follow (root.join (Path.ofNames names)) =
      match (root.join (Path.ofNames names)).fault? with
      | some fault => .error fault
      | none => descend goal names := by
  have hnil := toList_ne_nil_of_locate hroot
  have hfault := fault?_eq_none_of_locate hroot
  obtain ⟨way, hparts, hway⟩ := Path.parts_join hnil hne hnames
  rw [locate, hfault] at hroot
  -- The root is written with a point at its end, or not.
  have hbegin : locateFrom disk.tree true maxLinks
      (if isFromRoot root.text then [] else disk.here) way = .ok goal := by
    rcases hway with hway | hway
    · exact locateFrom_of_point (hway ▸ hroot)
    · exact hway ▸ hroot
  have hend : locateFrom disk.tree follow maxLinks
      (if isFromRoot root.text then [] else disk.here) (way ++ names) = descend goal names :=
    locateFrom_append hne (fun _ => locateWith_names hnames hfile) hbegin
  rw [locate, Path.isFromRoot_join hnil hne hnames, hparts]
  cases (root.join (Path.ofNames names)).fault? with
  | some fault => rfl
  | none => exact hend

theorem leadsTo_join {names : List String} {bytes : Bytes}
    (hroot : disk.locate true root = .ok goal) (hne : names ≠ [])
    (hnames : ∀ name ∈ names, Path.isName name = true)
    (hfile : disk.tree.get? (goal ++ names) = some (.file bytes)) :
    disk.LeadsTo (root.join (Path.ofNames names)) (goal ++ names) := by
  have hlocate := locate_join hroot hne hnames hfile
  split at hlocate
  · exact .nowhere _ hlocate
  · by_cases hlong : names.any Path.isTooLongName = true
    · simp only [descend, if_pos hlong] at hlocate
      exact .nowhere _ hlocate
    · simp only [descend, if_neg hlong] at hlocate
      exact .file bytes ⟨hlocate, by rw [Tree.node?, hfile]; rfl⟩

theorem find_eq_ok_iff {follow : Bool} {found : Tree} : disk.find follow path = .ok found ↔
    ∃ place, disk.locate follow path = .ok place ∧ disk.tree.get? place = some found := by
  rw [find]
  cases disk.locate follow path with
  | error fault => simp
  | ok place =>
    cases hget : disk.tree.get? place with
    | none => simp [hget]
    | some there => simp [hget]

theorem exists_find_of_isFolder (h : disk.isFolder root = true) :
    ∃ entries, disk.find true root = .ok (.folder entries) := by
  rw [isFolder] at h
  split at h
  · rename_i found hfind
    cases found with
    | file bytes => cases h
    | link target => cases h
    | folder entries => exact ⟨entries, hfind⟩
  · cases h

/-- The root of a walk is the folder that its path leads to. -/
theorem rootOf_of_isFolder (h : disk.isFolder root = true) :
    ∃ goal entries, disk.locate true root = .ok goal ∧
      disk.tree.get? goal = some (.folder entries) ∧ disk.rootOf root = .ok (.folder entries) := by
  obtain ⟨entries, hfind⟩ := exists_find_of_isFolder h
  obtain ⟨goal, hgoal, hget⟩ := find_eq_ok_iff.mp hfind
  refine ⟨goal, entries, hgoal, hget, ?_⟩
  have hfollow : (∃ p target, disk.locate false root = .ok p ∧
      disk.tree.shape? p = some (.link target)) ∨
      disk.locate true root = disk.locate false root := by
    simp only [locate, fault?_eq_none_of_locate hgoal]
    exact locateFrom_follow _ _ _
  rw [rootOf]
  rcases hfollow with ⟨p, target, hp, hshape⟩ | heq
  · have hlink : disk.find false root = .ok (.link target) :=
      find_eq_ok_iff.mpr ⟨p, hp, Tree.get?_of_shape?_link hshape⟩
    rw [hlink, hfind]
  · have hsame : disk.find false root = disk.find true root := by
      rw [find, find, heq]
    rw [hsame, hfind]

end

end Disk

end DesignTokens
