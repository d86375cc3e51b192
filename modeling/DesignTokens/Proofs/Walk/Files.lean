import Mathlib.Data.List.Nodup
import DesignTokens.Proofs.Disk.Below
import DesignTokens.Walk

/-! # The files of a walk

A walk yields a path for every file that it comes upon: the root and the names that lead from there
to the file. Followed from the start such a path leads to that very file, unless it or one of its
names is too long; so the paths of a walk lead to different files.

## Main definitions

* `Tree.isSound` - whether the members of every folder have names, each its own
* `Tree.HasFile` - whether names lead to a file of a tree

## Main results

* `Walk.exists_places` - the paths of a walk are those of different files below the root
* `Walk.exists_leadsTo` - where a path of a walk leads
* `Walk.pairwise_apart` - the paths of a walk lead to different files
-/

namespace DesignTokens

mutual

/-- Whether the members of every folder have names, each its own. -/
def Tree.isSound : Tree → Bool
  | .folder entries => Tree.areSound entries
  | _ => true

/-- Whether members have names, each its own, and are sound. -/
def Tree.areSound : List (String × Tree) → Bool
  | [] => true
  | (name, child) :: rest =>
    Path.isName name && !(rest.map (·.1)).contains name && child.isSound && Tree.areSound rest

end

/-- Names lead to a file of a tree. -/
structure Tree.HasFile (tree : Tree) (place : Place) : Prop where
  names : ∀ name ∈ place, Path.isName name = true
  file : ∃ bytes, tree.get? place = some (.file bytes)

namespace Tree

theorem areSound_cons {name : String} {child : Tree} {rest : List (String × Tree)} :
    areSound ((name, child) :: rest) = true ↔
      Path.isName name = true ∧ name ∉ rest.map (·.1) ∧ child.isSound = true ∧
        areSound rest = true := by
  simp [areSound, and_assoc]

section

variable {entries : List (String × Tree)} {name : String} {child : Tree}

theorem get?_of_mem (hsound : areSound entries = true) (h : (name, child) ∈ entries) :
    ByName.get? name entries = some child := by
  induction entries with
  | nil => cases h
  | cons entry rest ih =>
    obtain ⟨first, old⟩ := entry
    obtain ⟨-, hfirst, -, hrest⟩ := areSound_cons.mp hsound
    rw [ByName.get?]
    rcases List.mem_cons.mp h with heq | hlater
    · cases heq
      rw [if_pos rfl]
    · have hne : name ≠ first := by
        rintro rfl
        exact hfirst (List.mem_map_of_mem hlater)
      rw [if_neg hne, ih hrest hlater]

theorem isSound_of_mem (hsound : areSound entries = true) (h : (name, child) ∈ entries) :
    Path.isName name = true ∧ child.isSound = true := by
  induction entries with
  | nil => cases h
  | cons entry rest ih =>
    obtain ⟨first, old⟩ := entry
    obtain ⟨hname, -, hold, hrest⟩ := areSound_cons.mp hsound
    rcases List.mem_cons.mp h with heq | hlater
    · cases heq
      exact ⟨hname, hold⟩
    · exact ih hrest hlater

/-- A file below a member is a file below the folder. -/
theorem HasFile.of_mem {place : Place} (hsound : areSound entries = true)
    (h : (name, child) ∈ entries) (hfile : child.HasFile place) :
    (folder entries).HasFile (name :: place) := by
  refine ⟨?_, ?_⟩
  · intro n hn
    rcases List.mem_cons.mp hn with rfl | hn
    · exact (isSound_of_mem hsound h).1
    · exact hfile.names n hn
  · obtain ⟨bytes, hbytes⟩ := hfile.file
    refine ⟨bytes, ?_⟩
    rw [get?, Tree.entries, get?_of_mem hsound h]
    exact hbytes

end

theorem isSound_of_get? {tree found : Tree} {place : Place} (hsound : tree.isSound = true)
    (h : tree.get? place = some found) : found.isSound = true := by
  induction place generalizing tree with
  | nil =>
    obtain rfl := Option.some.inj h
    exact hsound
  | cons name place ih =>
    rw [get?] at h
    obtain ⟨child, hchild, h⟩ := Option.bind_eq_some_iff.mp h
    refine ih ?_ h
    cases tree with
    | file bytes => cases hchild
    | link target => cases hchild
    | folder entries =>
      rw [isSound] at hsound
      exact (isSound_of_mem hsound (ByName.mem_of_get? hchild)).2

end Tree

namespace Walk

section

variable {skip isShut : Place → Bool}

mutual

/-- What a walk yields in a tree are files of the tree. -/
theorem hasFile_of_mem_entriesAt (tree : Tree) (hsound : tree.isSound = true) (place : Place)
    {p : Place} (h : Entry.file p ∈ entriesAt skip isShut place tree) :
    ∃ below, p = place ++ below ∧ tree.HasFile below := by
  match tree with
  | .file bytes =>
    cases List.mem_singleton.mp h
    exact ⟨[], by simp, by simp, bytes, rfl⟩
  | .link target => cases h
  | .folder entries =>
    rw [entriesAt] at h
    split at h
    · cases List.mem_singleton.mp h
    · obtain ⟨name, child, below, hmem, rfl, hfile⟩ :=
        hasFile_of_mem_entriesIn entries hsound place h
      exact ⟨name :: below, rfl, hfile.of_mem hsound hmem⟩

/-- What a walk yields in members are files of one of them. -/
theorem hasFile_of_mem_entriesIn (entries : List (String × Tree))
    (hsound : Tree.areSound entries = true) (place : Place) {p : Place}
    (h : Entry.file p ∈ entriesIn skip isShut place entries) :
    ∃ name child below, (name, child) ∈ entries ∧ p = place ++ name :: below ∧
      child.HasFile below := by
  match entries with
  | [] => cases h
  | (name, child) :: rest =>
    obtain ⟨-, -, hchild, hrest⟩ := Tree.areSound_cons.mp hsound
    rw [entriesIn] at h
    rcases List.mem_append.mp h with h | h
    · split at h
      · cases h
      · obtain ⟨below, rfl, hfile⟩ := hasFile_of_mem_entriesAt child hchild (place ++ [name]) h
        exact ⟨name, child, below, List.mem_cons_self, by simp, hfile⟩
    · obtain ⟨name', child', below, hmem, heq, hfile⟩ :=
        hasFile_of_mem_entriesIn rest hrest place h
      exact ⟨name', child', below, List.mem_cons_of_mem _ hmem, heq, hfile⟩

end

theorem mem_filterMap_file?_iff {found : List Entry} {p : Place} :
    p ∈ found.filterMap Entry.file? ↔ Entry.file p ∈ found := by
  rw [List.mem_filterMap]
  constructor
  · rintro ⟨entry, hentry, hfile⟩
    cases entry with
    | file place =>
      obtain rfl := Option.some.inj hfile
      exact hentry
    | shut place => cases hfile
  · exact fun h => ⟨.file p, h, rfl⟩

mutual

/-- A walk yields each file of a tree once. -/
theorem nodup_entriesAt (tree : Tree) (hsound : tree.isSound = true) (place : Place) :
    ((entriesAt skip isShut place tree).filterMap Entry.file?).Nodup := by
  match tree with
  | .file bytes => simp [entriesAt, Entry.file?]
  | .link target => simp [entriesAt]
  | .folder entries =>
    rw [entriesAt]
    split
    · exact List.nodup_nil
    · exact nodup_entriesIn entries hsound place

/-- A walk yields each file of members once. -/
theorem nodup_entriesIn (entries : List (String × Tree)) (hsound : Tree.areSound entries = true)
    (place : Place) : ((entriesIn skip isShut place entries).filterMap Entry.file?).Nodup := by
  match entries with
  | [] => simp [entriesIn]
  | (name, child) :: rest =>
    obtain ⟨-, hname, hchild, hrest⟩ := Tree.areSound_cons.mp hsound
    rw [entriesIn, List.filterMap_append, List.nodup_append]
    refine ⟨?_, nodup_entriesIn rest hrest place, ?_⟩
    · split
      · simp
      · exact nodup_entriesAt child hchild (place ++ [name])
    · -- A file that both parts had would be below two members of one name.
      rintro p hp q hq rfl
      rw [mem_filterMap_file?_iff] at hp hq
      split at hp
      · cases hp
      · obtain ⟨below, hbelow, -⟩ := hasFile_of_mem_entriesAt child hchild (place ++ [name]) hp
        obtain ⟨name', child', below', hmem, heq, -⟩ := hasFile_of_mem_entriesIn rest hrest place hq
        rw [heq, List.append_assoc] at hbelow
        obtain ⟨rfl, -⟩ := List.cons.inj (List.append_cancel_left hbelow)
        exact hname (List.mem_map_of_mem hmem)

end

end

/-! ### Paths of a walk -/

section

variable {disk : Disk} {root : Path} {options : Options}

/-- The paths of a walk are those of different files below the root. -/
theorem exists_places (hsound : disk.tree.isSound = true) (hroot : disk.isFolder root = true) :
    ∃ (goal : Place) (places : List Place), disk.locate true root = .ok goal ∧ places.Nodup ∧
      (collect options root (disk.rootOf root)).1 =
        places.map (fun place => root.join (Path.ofNames place)) ∧
      ∀ place ∈ places, place ≠ [] ∧ (∀ name ∈ place, Path.isName name = true) ∧
        ∃ bytes, disk.tree.get? (goal ++ place) = some (.file bytes) := by
  obtain ⟨goal, entries, hgoal, hget, hrootOf⟩ := Disk.rootOf_of_isFolder hroot
  have hfolder := Tree.isSound_of_get? hsound hget
  have hfile : ∀ {isShut : Place → Bool} (place : Place),
      Entry.file place ∈ entriesAt (isExcluded options) isShut [] (.folder entries) →
        place ≠ [] ∧ (∀ name ∈ place, Path.isName name = true) ∧
          ∃ bytes, disk.tree.get? (goal ++ place) = some (.file bytes) := by
    intro isShut place hplace
    obtain ⟨below, rfl, hbelow⟩ := hasFile_of_mem_entriesAt _ hfolder [] hplace
    obtain ⟨bytes, hbytes⟩ := hbelow.file
    refine ⟨?_, hbelow.names, bytes, ?_⟩
    · rintro hnil
      cases hnil ▸ hbytes
    · rw [Tree.get?_append, hget]
      exact hbytes
  rw [hrootOf, collect, List.filter_map]
  refine ⟨goal, _, hgoal, (nodup_entriesAt _ hfolder []).filter _, List.map_congr_left ?_, ?_⟩
  · intro place hplace
    have hmem := mem_filterMap_file?_iff.mp (List.mem_of_mem_filter hplace)
    rw [pathOf, if_neg]
    simpa using (hfile place hmem).1
  · intro place hplace
    exact hfile place (mem_filterMap_file?_iff.mp (List.mem_of_mem_filter hplace))

/-- A path of a walk leads to the file that its names lead to, or nowhere. -/
theorem exists_leadsTo (hsound : disk.tree.isSound = true) (hroot : disk.isFolder root = true) :
    ∀ path ∈ (collect options root (disk.rootOf root)).1, ∃ place, disk.LeadsTo path place := by
  obtain ⟨goal, places, hgoal, -, hpaths, hplaces⟩ := exists_places hsound hroot
  rw [hpaths]
  intro path hpath
  obtain ⟨place, hplace, rfl⟩ := List.mem_map.mp hpath
  obtain ⟨hne, hnames, bytes, hbytes⟩ := hplaces place hplace
  exact ⟨goal ++ place, Disk.leadsTo_join hgoal hne hnames hbytes⟩

/-- The paths of a walk lead to different files. -/
theorem pairwise_apart (hsound : disk.tree.isSound = true) (hroot : disk.isFolder root = true) :
    (collect options root (disk.rootOf root)).1.Pairwise disk.Apart := by
  obtain ⟨goal, places, hgoal, hnodup, hpaths, hplaces⟩ := exists_places hsound hroot
  rw [hpaths, List.pairwise_map]
  refine hnodup.pairwise_of_forall_ne ?_
  intro p hp q hq hne place hplace hother
  obtain ⟨hpne, hpnames, pbytes, hpbytes⟩ := hplaces p hp
  obtain ⟨hqne, hqnames, qbytes, hqbytes⟩ := hplaces q hq
  have hpgoal := (Disk.leadsTo_join hgoal hpne hpnames hpbytes).eq hplace
  have hqgoal := (Disk.leadsTo_join hgoal hqne hqnames hqbytes).eq hother
  exact hne (List.append_cancel_left (hpgoal.symm.trans hqgoal))

/-- The paths of a walk are different relative to the root. -/
theorem nodup_relativeTo (hsound : disk.tree.isSound = true) (hroot : disk.isFolder root = true) :
    ((collect options root (disk.rootOf root)).1.map (·.relativeTo root)).Nodup := by
  obtain ⟨goal, places, hgoal, hnodup, hpaths, hplaces⟩ := exists_places hsound hroot
  have hnil := Disk.toList_ne_nil_of_locate hgoal
  rw [hpaths, List.map_map]
  refine hnodup.map_on ?_
  intro p hp q hq heq
  obtain ⟨hpne, hpnames, -⟩ := hplaces p hp
  obtain ⟨hqne, hqnames, -⟩ := hplaces q hq
  simp only [Function.comp_apply, Path.relativeTo_join hnil hpne hpnames,
    Path.relativeTo_join hnil hqne hqnames] at heq
  exact Path.ofNames_injective hpne hqne hpnames hqnames heq

end

end Walk

end DesignTokens
