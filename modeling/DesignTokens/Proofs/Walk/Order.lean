import DesignTokens.Proofs.Path.Order
import DesignTokens.Proofs.Walk.Files

/-! # The order of a walk

What a walk leaves out is decided entry by entry on the way down, so a file is left out just if it
or a folder on the way to it is. The members of a folder come in the order of their names; hence the
files come in the order of their paths, each folder's files standing together.

## Main definitions

* `Tree.isOrdered` - whether the members of every folder come in the order of their names
* `Walk.Omits` - what options leave out, by its name or by its place below the root
* `Walk.Open` - whether a walk comes upon no folder that cannot be opened

## Main results

* `Walk.mem_entriesAt_iff` - which files a walk yields
* `Walk.pairwise_entriesAt` - in which order
* `Walk.mem_collect_iff_and_ascending` - a walk yields the files wanted, in the order of their paths
-/

namespace DesignTokens

mutual

/-- Whether the members of every folder come in the order of their names. -/
def Tree.isOrdered : Tree → Bool
  | .folder entries => Tree.areOrdered entries
  | _ => true

/-- Whether members come in the order of their names and are ordered. -/
def Tree.areOrdered : List (String × Tree) → Bool
  | [] => true
  | (name, child) :: rest =>
    (rest.map (·.1)).all (nameLt name ·) && child.isOrdered && Tree.areOrdered rest

end

namespace Tree

theorem areOrdered_cons {name : String} {child : Tree} {rest : List (String × Tree)} :
    areOrdered ((name, child) :: rest) = true ↔
      (∀ other ∈ rest.map (·.1), nameLt name other = true) ∧ child.isOrdered = true ∧
        areOrdered rest = true := by
  rw [areOrdered, Bool.and_eq_true, Bool.and_eq_true, List.all_eq_true, and_assoc]

theorem isOrdered_of_mem {entries : List (String × Tree)} {name : String} {child : Tree}
    (hordered : areOrdered entries = true) (h : (name, child) ∈ entries) :
    child.isOrdered = true := by
  induction entries with
  | nil => cases h
  | cons entry rest ih =>
    obtain ⟨first, old⟩ := entry
    obtain ⟨-, hold, hrest⟩ := areOrdered_cons.mp hordered
    rcases List.mem_cons.mp h with heq | hlater
    · cases heq
      exact hold
    · exact ih hrest hlater

theorem isOrdered_of_get? {tree found : Tree} {place : Place} (hordered : tree.isOrdered = true)
    (h : tree.get? place = some found) : found.isOrdered = true := by
  induction place generalizing tree with
  | nil =>
    obtain rfl := Option.some.inj h
    exact hordered
  | cons name place ih =>
    rw [get?] at h
    obtain ⟨child, hchild, h⟩ := Option.bind_eq_some_iff.mp h
    refine ih ?_ h
    cases tree with
    | file bytes => cases hchild
    | link target => cases hchild
    | folder entries => exact isOrdered_of_mem hordered (ByName.mem_of_get? hchild)

/-- Only names lead to what is in a tree. -/
theorem isName_of_get? {tree found : Tree} {place : Place} (hsound : tree.isSound = true)
    (h : tree.get? place = some found) : ∀ name ∈ place, Path.isName name = true := by
  induction place generalizing tree with
  | nil => simp
  | cons name place ih =>
    rw [get?] at h
    obtain ⟨child, hchild, hbelow⟩ := Option.bind_eq_some_iff.mp h
    cases tree with
    | file bytes => cases hchild
    | link target => cases hchild
    | folder entries =>
      obtain ⟨hname, hchildSound⟩ := isSound_of_mem hsound (ByName.mem_of_get? hchild)
      intro other hother
      rcases List.mem_cons.mp hother with rfl | hother
      · exact hname
      · exact ih hchildSound hbelow other hother

end Tree

namespace Walk

/-! ### Which files a walk yields -/

section

variable {skip isShut : Place → Bool}

/-- Nothing on the way from `place` down along `below` is left out. -/
def Passed (skip : Place → Bool) (place below : Place) : Prop :=
  ∀ way, way ≠ [] → way <+: below → skip (place ++ way) = false

theorem passed_nil (skip : Place → Bool) (place : Place) : Passed skip place [] := by
  intro way hne hway
  exact absurd (List.prefix_nil.mp hway) hne

theorem passed_cons {place below : Place} {name : String} :
    Passed skip place (name :: below) ↔
      skip (place ++ [name]) = false ∧ Passed skip (place ++ [name]) below := by
  constructor
  · intro h
    refine ⟨h [name] (List.cons_ne_nil _ _) (by simp), ?_⟩
    intro way hne hway
    rw [List.append_assoc]
    exact h (name :: way) (List.cons_ne_nil _ _) (List.cons_prefix_cons.mpr ⟨rfl, hway⟩)
  · rintro ⟨hname, hbelow⟩ way hne hway
    cases way with
    | nil => exact absurd rfl hne
    | cons first way =>
      obtain ⟨rfl, hrest⟩ := List.cons_prefix_cons.mp hway
      by_cases hnil : way = []
      · rw [hnil]
        exact hname
      · rw [← List.singleton_append, ← List.append_assoc]
        exact hbelow way hnil hrest

/-- A walk comes upon no folder that cannot be opened. -/
def Open (found : List Entry) : Prop :=
  ∀ place, Entry.shut place ∉ found

mutual

/-- A walk yields the files on the way to which nothing is left out. -/
theorem mem_entriesAt_iff (tree : Tree) (hsound : tree.isSound = true) (place : Place)
    (hopen : Open (entriesAt skip isShut place tree)) {p : Place} :
    Entry.file p ∈ entriesAt skip isShut place tree ↔
      ∃ below, p = place ++ below ∧ tree.HasFile below ∧ Passed skip place below := by
  match tree with
  | .file bytes =>
    rw [entriesAt, List.mem_singleton, Entry.file.injEq]
    constructor
    · rintro rfl
      exact ⟨[], by simp, ⟨by simp, bytes, rfl⟩, passed_nil skip p⟩
    · rintro ⟨below, rfl, hfile, -⟩
      obtain ⟨bytes', hbytes⟩ := hfile.file
      cases below with
      | nil => simp
      | cons name below => cases hbytes
  | .link target =>
    rw [entriesAt]
    constructor
    · intro h
      cases h
    · rintro ⟨below, -, hfile, -⟩
      obtain ⟨bytes, hbytes⟩ := hfile.file
      cases below <;> cases hbytes
  | .folder entries =>
    -- A folder that cannot be opened would be among what the walk came upon.
    have hshut : isShut place = false := by
      by_contra hshut
      rw [entriesAt, if_pos (by simpa using hshut)] at hopen
      exact hopen place (List.mem_singleton.mpr rfl)
    rw [entriesAt, if_neg (by simp [hshut])] at hopen ⊢
    rw [mem_entriesIn_iff entries hsound place hopen]
    constructor
    · rintro ⟨name, child, below, hmem, rfl, hfile, hpassed⟩
      exact ⟨name :: below, rfl, hfile.of_mem hsound hmem, hpassed⟩
    · rintro ⟨below, rfl, hfile, hpassed⟩
      obtain ⟨bytes, hbytes⟩ := hfile.file
      cases below with
      | nil => cases hbytes
      | cons name below =>
        rw [Tree.get?] at hbytes
        obtain ⟨child, hchild, hbytes⟩ := Option.bind_eq_some_iff.mp hbytes
        refine ⟨name, child, below, ByName.mem_of_get? hchild, rfl, ⟨?_, bytes, hbytes⟩, hpassed⟩
        exact fun n hn => hfile.names n (List.mem_cons_of_mem _ hn)

/-- A walk yields the files of members on the way to which nothing is left out. -/
theorem mem_entriesIn_iff (entries : List (String × Tree)) (hsound : Tree.areSound entries = true)
    (place : Place) (hopen : Open (entriesIn skip isShut place entries)) {p : Place} :
    Entry.file p ∈ entriesIn skip isShut place entries ↔
      ∃ name child below, (name, child) ∈ entries ∧ p = place ++ name :: below ∧
        child.HasFile below ∧ Passed skip place (name :: below) := by
  match entries with
  | [] => simp [entriesIn]
  | (name, child) :: rest =>
    obtain ⟨-, -, hchild, hrest⟩ := Tree.areSound_cons.mp hsound
    rw [entriesIn] at hopen ⊢
    have hopenRest : Open (entriesIn skip isShut place rest) :=
      fun q hq => hopen q (List.mem_append_right _ hq)
    -- The files of the first entry, unless it is skipped.
    have hfirst : (Entry.file p ∈ if skip (place ++ [name]) then [] else
        entriesAt skip isShut (place ++ [name]) child) ↔
          ∃ below, p = place ++ name :: below ∧ child.HasFile below ∧
            Passed skip place (name :: below) := by
      by_cases hskip : skip (place ++ [name]) = true
      · simp [hskip, passed_cons]
      · rw [if_neg hskip] at hopen ⊢
        rw [mem_entriesAt_iff child hchild (place ++ [name])
          fun q hq => hopen q (List.mem_append_left _ hq)]
        simp [hskip, passed_cons]
    rw [List.mem_append, hfirst, mem_entriesIn_iff rest hrest place hopenRest]
    constructor
    · rintro (⟨below, rfl, hfile, hpassed⟩ | ⟨name', child', below, hmem, rfl, hfile, hpassed⟩)
      · exact ⟨name, child, below, List.mem_cons_self, rfl, hfile, hpassed⟩
      · exact ⟨name', child', below, List.mem_cons_of_mem _ hmem, rfl, hfile, hpassed⟩
    · rintro ⟨name', child', below, hmem, rfl, hfile, hpassed⟩
      rcases List.mem_cons.mp hmem with heq | hlater
      · cases heq
        exact .inl ⟨below, rfl, hfile, hpassed⟩
      · exact .inr ⟨name', child', below, hlater, rfl, hfile, hpassed⟩

end

/-! ### In which order a walk yields files -/

/-- Whether the names of one place come before those of another. -/
def ltPlace (p q : Place) : Prop :=
  Path.ltSteps (p.map .name) (q.map .name) = true

theorem ltPlace_of_nameLt {place p q : Place} {name other : String}
    (h : nameLt name other = true) : ltPlace (place ++ name :: p) (place ++ other :: q) := by
  rw [ltPlace, List.map_append, List.map_append, Path.ltSteps_append]
  exact Path.ltSteps_cons.mpr (.inl h)

mutual

/-- A walk yields the files of a tree in the order of their places. -/
theorem pairwise_entriesAt (tree : Tree) (hsound : tree.isSound = true)
    (hordered : tree.isOrdered = true) (place : Place) :
    ((entriesAt skip isShut place tree).filterMap Entry.file?).Pairwise ltPlace := by
  match tree with
  | .file bytes => simp [entriesAt, Entry.file?]
  | .link target => simp [entriesAt]
  | .folder entries =>
    rw [entriesAt]
    split
    · exact List.Pairwise.nil
    · exact pairwise_entriesIn entries hsound hordered place

/-- A walk yields the files of members in the order of their places. -/
theorem pairwise_entriesIn (entries : List (String × Tree))
    (hsound : Tree.areSound entries = true) (hordered : Tree.areOrdered entries = true)
    (place : Place) :
    ((entriesIn skip isShut place entries).filterMap Entry.file?).Pairwise ltPlace := by
  match entries with
  | [] => simp [entriesIn]
  | (name, child) :: rest =>
    obtain ⟨-, -, hchild, hrest⟩ := Tree.areSound_cons.mp hsound
    obtain ⟨hname, hchild', hrest'⟩ := Tree.areOrdered_cons.mp hordered
    rw [entriesIn, List.filterMap_append, List.pairwise_append]
    refine ⟨?_, pairwise_entriesIn rest hrest hrest' place, ?_⟩
    · split
      · simp
      · exact pairwise_entriesAt child hchild hchild' (place ++ [name])
    · -- What is below the first member comes before what is below a later one.
      intro p hp q hq
      rw [mem_filterMap_file?_iff] at hp hq
      split at hp
      · cases hp
      · obtain ⟨below, rfl, -⟩ := hasFile_of_mem_entriesAt child hchild (place ++ [name]) hp
        obtain ⟨other, child', below', hmem, rfl, -⟩ :=
          hasFile_of_mem_entriesIn rest hrest place hq
        rw [List.append_assoc]
        exact ltPlace_of_nameLt (hname other (List.mem_map_of_mem hmem))

end

end

/-! ### The paths of a walk -/

/-- Options leave out the entry with a name in the folder at a place: by default what is hidden and
the folders of dependencies, and what a glob describes by its name or by its place. -/
def Omits (options : Options) (folder : Place) (name : String) : Prop :=
  options.defaultExcludes = true ∧ (name.toList.head? = some '.' ∨ name ∈ dependencyFolders) ∨
    ∃ glob ∈ options.excludes, glob.describes name.toList = true ∨
      glob.describes (Path.ofNames (folder ++ [name])).text.toList = true

theorem isExcluded_append (options : Options) (folder : Place) (name : String) :
    isExcluded options (folder ++ [name]) = true ↔ Omits options folder name := by
  simp [isExcluded, isExcludedByDefault, Omits]

theorem passed_isExcluded_iff {options : Options} {place : Place} :
    Passed (isExcluded options) [] place ↔
      ∀ folder name, folder ++ [name] <+: place → ¬ Omits options folder name := by
  constructor
  · intro h folder name hway homits
    have hpassed := h (folder ++ [name]) (by simp) hway
    rw [List.nil_append, ← Bool.not_eq_true] at hpassed
    exact hpassed ((isExcluded_append options folder name).mpr homits)
  · intro h way hne hway
    rw [List.nil_append, ← Bool.not_eq_true]
    rw [← List.dropLast_append_getLast hne] at hway ⊢
    exact fun hex => h _ _ hway ((isExcluded_append options _ _).mp hex)

section

variable {disk : Disk} {root : Path} {options : Options} {files : List Path}

/-- A walk that can open every folder goes through the files below its root, but for those on the
way to which something is left out, in the order of their places. -/
theorem exists_pairwise_places (hsound : disk.tree.isSound = true)
    (hordered : disk.tree.isOrdered = true) (hroot : disk.isFolder root = true)
    (hcollect : collect options root (disk.rootOf root) = (files, [])) :
    ∃ (goal : Place) (places : List Place), disk.locate true root = .ok goal ∧
      places.Pairwise ltPlace ∧
      files = (places.map (pathOf root)).filter (includes options) ∧
      ∀ place, place ∈ places ↔ place ≠ [] ∧ (∀ name ∈ place, Path.isName name = true) ∧
        (∃ bytes, disk.tree.get? (goal ++ place) = some (.file bytes)) ∧
        Passed (isExcluded options) [] place := by
  obtain ⟨goal, entries, hgoal, hget, hrootOf⟩ := Disk.rootOf_of_isFolder hroot
  have hfolder := Tree.isSound_of_get? hsound hget
  rw [hrootOf, collect, Prod.mk.injEq, List.map_eq_nil_iff] at hcollect
  obtain ⟨rfl, hshut⟩ := hcollect
  refine ⟨goal, _, hgoal,
    pairwise_entriesAt _ hfolder (Tree.isOrdered_of_get? hordered hget) [], rfl, fun place => ?_⟩
  -- No folder was reported shut, so none was come upon.
  have hopen : Open (entriesAt (isExcluded options) (fun place => (pathOf root place).isTooLong) []
      (.folder entries)) := by
    intro place hplace
    have hmem := List.mem_filterMap.mpr ⟨_, hplace, (rfl : (Entry.shut place).shut? = some place)⟩
    rw [hshut] at hmem
    cases hmem
  rw [mem_filterMap_file?_iff, mem_entriesAt_iff _ hfolder [] hopen, Tree.get?_append, hget]
  constructor
  · rintro ⟨below, rfl, hfile, hpassed⟩
    -- The root is a folder, so no file stands at the root itself.
    refine ⟨?_, hfile.names, hfile.file, hpassed⟩
    rintro hempty
    obtain ⟨bytes, hbytes⟩ := hfile.file
    cases hempty ▸ hbytes
  · rintro ⟨-, hnames, hfile, hpassed⟩
    exact ⟨place, rfl, ⟨hnames, hfile⟩, hpassed⟩

theorem pathOf_of_ne_nil {place : Place} (hne : place ≠ []) :
    pathOf root place = root.join (Path.ofNames place) :=
  if_neg (by simpa using hne)

/-- Paths below a root are ordered like their places, also relative to the root. -/
theorem lt_of_ltPlace (hroot : root.text.toList ≠ []) {p q : Place} (hp : p ≠ []) (hq : q ≠ [])
    (hpnames : ∀ name ∈ p, Path.isName name = true)
    (hqnames : ∀ name ∈ q, Path.isName name = true) (h : ltPlace p q) :
    (pathOf root p).lt (pathOf root q) = true ∧
      ((pathOf root p).relativeTo root).lt ((pathOf root q).relativeTo root) = true := by
  rw [pathOf_of_ne_nil hp, pathOf_of_ne_nil hq, Path.relativeTo_join hroot hp hpnames,
    Path.relativeTo_join hroot hq hqnames, Path.lt, Path.lt, Path.steps_join hroot hp hpnames,
    Path.steps_join hroot hq hqnames, Path.steps_ofNames hp hpnames,
    Path.steps_ofNames hq hqnames, Path.ltSteps_append]
  exact ⟨h, h⟩

/-- A walk that can open every folder yields the files wanted on the way to which nothing is left
out, each once and in the order of their paths, which is the order of a report on them. -/
theorem mem_collect_iff_and_ascending (hsound : disk.tree.isSound = true)
    (hordered : disk.tree.isOrdered = true) (hroot : disk.isFolder root = true)
    (hcollect : collect options root (disk.rootOf root) = (files, [])) :
    ∃ goal, disk.locate true root = .ok goal ∧
      (∀ path, path ∈ files ↔ ∃ place bytes, place ≠ [] ∧ path = root.join (Path.ofNames place) ∧
        disk.tree.get? (goal ++ place) = some (.file bytes) ∧
        path.extension ∈ options.extensions ∧
        ∀ folder name, folder ++ [name] <+: place → ¬ Omits options folder name) ∧
      files.Nodup ∧ Path.Ascending files ∧ Path.Ascending (files.map (·.relativeTo root)) ∧
      ∀ (report : Report) (findings : List Finding), report.perFile = [] →
        (∀ f ∈ findings, f.file ∈ files.map (·.relativeTo root)) →
        ((report.extend findings).perFile.map Prod.fst).Sublist
          (files.map (·.relativeTo root)) := by
  obtain ⟨goal, places, hgoal, hplaces, hfiles, hmem⟩ :=
    exists_pairwise_places hsound hordered hroot hcollect
  have hnil := Disk.toList_ne_nil_of_locate hgoal
  -- Places in order give paths in order, both from here and from the root.
  have hlt := hplaces.imp_of_mem fun {p q} hp hq h =>
    lt_of_ltPlace hnil ((hmem p).mp hp).1 ((hmem q).mp hq).1 ((hmem p).mp hp).2.1
      ((hmem q).mp hq).2.1 h
  have hpaths : Path.Ascending files := by
    rw [hfiles]
    exact (List.pairwise_map.mpr (hlt.imp And.left)).filter _
  have hrelative : Path.Ascending (files.map (·.relativeTo root)) := by
    rw [hfiles, List.filter_map, List.map_map]
    exact List.pairwise_map.mpr ((hlt.imp And.right).filter _)
  refine ⟨goal, hgoal, fun path => ?_, hpaths.nodup, hpaths, hrelative,
    fun report findings => Report.sublist_extend hrelative⟩
  rw [hfiles, List.mem_filter, List.mem_map, includes, List.contains_iff_mem]
  constructor
  · rintro ⟨⟨place, hplace, rfl⟩, hextension⟩
    obtain ⟨hne, -, ⟨bytes, hbytes⟩, hpassed⟩ := (hmem place).mp hplace
    exact ⟨place, bytes, hne, pathOf_of_ne_nil hne, hbytes, hextension,
      passed_isExcluded_iff.mp hpassed⟩
  · rintro ⟨place, bytes, hne, rfl, hbytes, hextension, hpassed⟩
    have hnames : ∀ name ∈ place, Path.isName name = true :=
      fun name hname => Tree.isName_of_get? hsound hbytes name (List.mem_append_right _ hname)
    exact ⟨⟨place, (hmem place).mpr ⟨hne, hnames, ⟨bytes, hbytes⟩,
      passed_isExcluded_iff.mpr hpassed⟩, pathOf_of_ne_nil hne⟩, hextension⟩

/-- A folder with a hidden folder in it and with a folder whose name begins the name of a file. -/
def hiddenAndNested : Disk where
  tree := .folder [(".git", .folder [("c.ts", .file [])]), ("a", .folder [("b.ts", .file [])]),
    ("a.ts", .file []), ("d", .link "a.ts")]

/-- The hidden folder is left out, and what is in a folder comes before a file whose name goes on
where the name of the folder ends. -/
theorem mem_collect_hiddenAndNested :
    collect (.ofExtensions ["ts"]) ⟨"."⟩ (hiddenAndNested.rootOf ⟨"."⟩) =
        ([⟨"./a/b.ts"⟩, ⟨"./a.ts"⟩], []) ∧
      Path.Ascending [⟨"./a/b.ts"⟩, ⟨"./a.ts"⟩] := by
  have hcollect : collect (.ofExtensions ["ts"]) ⟨"."⟩ (hiddenAndNested.rootOf ⟨"."⟩) =
      ([⟨"./a/b.ts"⟩, ⟨"./a.ts"⟩], []) := by decide
  obtain ⟨-, -, -, -, hascending, -⟩ :=
    mem_collect_iff_and_ascending (by decide) (by decide) (by decide) hcollect
  exact ⟨hcollect, hascending⟩

end

end Walk

end DesignTokens
