import DesignTokens.Disk.Basic
import DesignTokens.Proofs.Text.Parts

/-! # Paths below a root

The names that lead to a file are put after a root, with a slash between them. What counts of such a
path are the steps of the root and then the names; so the names are what the path is relative to the
root, and different names make different paths.

## Main definitions

* `Path.isName` - whether a text can be the name of a member of a folder

## Main results

* `Path.parts_join` - the parts of a path below a root
* `Path.steps_join` - the steps of a path below a root
* `Path.relativeTo_join` - a path below a root as it is relative to the root
-/

namespace DesignTokens

open Text

theorem Text.pieces_ne_nil (c : Char) (t : Text) : pieces c t ≠ [] := by
  rcases pieces_cases c t with ⟨-, h⟩ | ⟨a, b, -, -, h⟩ <;> simp [h]

theorem Text.consFirst_append {parts : List Text} (c : Char) (h : parts ≠ []) (more : List Text) :
    consFirst c (parts ++ more) = consFirst c parts ++ more := by
  cases parts with
  | nil => exact absurd rfl h
  | cons part parts => rfl

/-- A text is cut at every separator. -/
theorem Text.pieces_append (c : Char) (a b : Text) :
    pieces c (a ++ c :: b) = pieces c a ++ pieces c b := by
  induction a with
  | nil => simp [pieces]
  | cons x a ih =>
    rw [List.cons_append, pieces, pieces, ih]
    split
    · rfl
    · exact consFirst_append x (pieces_ne_nil c a) _

namespace Path

/-- Whether a text can be the name of a member of a folder. -/
def isName (name : String) : Bool :=
  !name.isEmpty && !name.toList.contains '/' && name != "." && name != ".."

section

variable {name : String} {names : List String} {root : Path}

theorem slash_notMem_of_isName (h : isName name = true) : '/' ∉ name.toList := by
  simp only [isName, Bool.and_eq_true, Bool.not_eq_true', List.contains_eq_mem,
    decide_eq_false_iff_not] at h
  exact h.1.1.2

theorem toList_ne_nil_of_isName (h : isName name = true) : name.toList ≠ [] := by
  simp only [isName, Bool.and_eq_true, Bool.not_eq_true'] at h
  intro hnil
  have hempty : name = "" := String.toList_injective hnil
  rw [hempty] at h
  simp at h

theorem ne_point_of_isName (h : isName name = true) : name ≠ "." ∧ name ≠ ".." := by
  simp only [isName, Bool.and_eq_true, bne_iff_ne] at h
  exact ⟨h.1.2, h.2⟩

theorem ofPart?_of_isName (h : isName name = true) :
    Step.ofPart? name.toList = some (.name name) := by
  obtain ⟨hpoint, hpoints⟩ := ne_point_of_isName h
  have hne : name.toList.isEmpty = false := by
    simpa using toList_ne_nil_of_isName h
  have hpoint' : name.toList ≠ ['.'] := fun heq => hpoint (String.toList_injective heq)
  have hpoints' : name.toList ≠ ['.', '.'] := fun heq => hpoints (String.toList_injective heq)
  simp [Step.ofPart?, hne, hpoint', hpoints']

/-! ### Names with slashes between them -/

theorem toList_ofNames (names : List String) :
    (ofNames names).text.toList = ['/'].intercalate (names.map String.toList) := by
  simp [ofNames]

theorem pieces_ofNames (hne : names ≠ []) (h : ∀ name ∈ names, isName name = true) :
    pieces '/' (ofNames names).text.toList = names.map String.toList := by
  rw [toList_ofNames]
  induction names with
  | nil => exact absurd rfl hne
  | cons name names ih =>
    have hslash := slash_notMem_of_isName (h name List.mem_cons_self)
    cases names with
    | nil => simpa using pieces_of_not_mem hslash
    | cons next names =>
      have hrest := ih (by simp) fun n hn => h n (List.mem_cons_of_mem name hn)
      rw [List.map_cons, List.map_cons, List.intercalate_cons_cons, ← List.map_cons,
        List.append_assoc, List.singleton_append, pieces_append_cons hslash, hrest]

/-- Different names make different paths. -/
theorem ofNames_injective {names' : List String} (hne : names ≠ []) (hne' : names' ≠ [])
    (h : ∀ name ∈ names, isName name = true) (h' : ∀ name ∈ names', isName name = true)
    (heq : ofNames names = ofNames names') : names = names' := by
  have hpieces := pieces_ofNames hne h
  rw [heq, pieces_ofNames hne' h'] at hpieces
  exact ((List.map_injective_iff.mpr fun _ _ hxy => String.toList_injective hxy) hpieces).symm

/-- Between slashes there is always a character. -/
theorem nil_notMem_pieces_ofNames (hne : names ≠ []) (h : ∀ name ∈ names, isName name = true) :
    [] ∉ pieces '/' (ofNames names).text.toList := by
  rw [pieces_ofNames hne h]
  intro hmem
  obtain ⟨name, hname, hnil⟩ := List.mem_map.mp hmem
  exact toList_ne_nil_of_isName (h name hname) hnil

theorem toList_ofNames_ne_nil (hne : names ≠ []) (h : ∀ name ∈ names, isName name = true) :
    (ofNames names).text.toList ≠ [] := by
  intro hnil
  apply nil_notMem_pieces_ofNames hne h
  simp [hnil, pieces]

theorem getLast?_ofNames (hne : names ≠ []) (h : ∀ name ∈ names, isName name = true) :
    (ofNames names).text.toList.getLast? ≠ some '/' := by
  intro hlast
  obtain ⟨t, ht⟩ := List.getLast?_eq_some_iff.mp hlast
  apply nil_notMem_pieces_ofNames hne h
  rw [ht, pieces_append]
  simp [pieces]

theorem head?_ofNames (hne : names ≠ []) (h : ∀ name ∈ names, isName name = true) :
    (ofNames names).text.toList.head? ≠ some '/' := by
  intro hhead
  obtain ⟨t, ht⟩ := List.head?_eq_some_iff.mp hhead
  apply nil_notMem_pieces_ofNames hne h
  simp [ht, pieces]

/-! ### Names after a root -/

/-- The text of a path below a root: the root, a slash unless the root ends with one, and the
names. -/
theorem join_cases (hroot : root.text.toList ≠ []) (hne : names ≠ [])
    (h : ∀ name ∈ names, isName name = true) :
    ∃ r, (root.join (ofNames names)).text.toList = r ++ '/' :: (ofNames names).text.toList ∧
      (root.text.toList = r ++ ['/'] ∨
        root.text.toList = r ∧ root.text.toList.getLast? ≠ some '/') := by
  have hroot' : root.text.isEmpty = false := by
    rw [← Bool.not_eq_true, String.isEmpty_iff]
    rintro heq
    rw [heq] at hroot
    exact hroot rfl
  rw [join, if_neg (by simp [head?_ofNames hne h, hroot'])]
  split
  · rename_i hlast
    obtain ⟨r, hr⟩ := List.getLast?_eq_some_iff.mp hlast
    exact ⟨r, by simp [hr], .inl hr⟩
  · rename_i hlast
    exact ⟨root.text.toList, by simp, .inr ⟨rfl, hlast⟩⟩

/-- The steps of a path: how it begins, and then what its parts stand for. -/
theorem steps_eq (p : Path) : p.steps =
    (if p.text.toList.head? = some '/' then [.root]
      else if (pieces '/' p.text.toList).head? = some ['.'] then [.here] else []) ++
    (pieces '/' p.text.toList).filterMap Step.ofPart? := by
  rw [steps]
  cases p.text.toList with
  | nil => rfl
  | cons c t =>
    by_cases hc : c = '/'
    · subst hc
      rfl
    · simp only [List.head?_cons, Option.some.injEq, hc, if_false]
      split
      · rename_i hmatch
        exact absurd (List.cons.inj hmatch).1 hc
      · split <;> rfl

theorem filterMap_ofPart?_of_isName (h : ∀ name ∈ names, isName name = true) :
    (names.map String.toList).filterMap Step.ofPart? = names.map Step.name := by
  rw [List.filterMap_map]
  refine List.filterMap_eq_map_iff_forall_eq_some.mpr ?_
  exact fun name hname => ofPart?_of_isName (h name hname)

/-- The steps of a path of names are the names. -/
theorem steps_ofNames (hne : names ≠ []) (h : ∀ name ∈ names, isName name = true) :
    (ofNames names).steps = names.map Step.name := by
  have hbegins : (names.map String.toList).head? ≠ some ['.'] := by
    intro hpoint
    obtain ⟨name, rest, rfl⟩ := List.exists_cons_of_ne_nil hne
    rw [List.map_cons, List.head?_cons, Option.some.injEq] at hpoint
    exact (ne_point_of_isName (h name List.mem_cons_self)).1 (String.toList_inj.mp hpoint)
  rw [steps_eq, if_neg (head?_ofNames hne h), pieces_ofNames hne h, if_neg hbegins,
    filterMap_ofPart?_of_isName h, List.nil_append]

/-- The steps of a path below a root are those of the root and then the names. -/
theorem steps_join (hroot : root.text.toList ≠ []) (hne : names ≠ [])
    (h : ∀ name ∈ names, isName name = true) :
    (root.join (ofNames names)).steps = root.steps ++ names.map Step.name := by
  obtain ⟨r, htext, hr⟩ := join_cases hroot hne h
  have hpieces : pieces '/' (root.join (ofNames names)).text.toList =
      pieces '/' r ++ names.map String.toList := by
    rw [htext, pieces_append, pieces_ofNames hne h]
  -- A slash at the end of the root adds a part that stands for no step.
  have hlater : (pieces '/' root.text.toList).filterMap Step.ofPart? =
      (pieces '/' r).filterMap Step.ofPart? := by
    rcases hr with hr | ⟨hr, -⟩
    · rw [hr, pieces_append]
      simp [pieces, Step.ofPart?]
    · rw [hr]
  have hfirst : (root.join (ofNames names)).text.toList.head? = root.text.toList.head? := by
    rcases hr with hr | ⟨hr, -⟩
    · rw [htext, hr]
      cases r <;> rfl
    · subst hr
      rw [htext, List.head?_append_of_ne_nil _ hroot]
  have hhead : (pieces '/' (root.join (ofNames names)).text.toList).head? =
      (pieces '/' root.text.toList).head? := by
    rw [hpieces, List.head?_append_of_ne_nil _ (pieces_ne_nil '/' r)]
    rcases hr with hr | ⟨hr, -⟩
    · rw [hr, pieces_append, List.head?_append_of_ne_nil _ (pieces_ne_nil '/' r)]
    · rw [hr]
  rw [steps_eq, steps_eq root, hfirst, hhead, hpieces, List.filterMap_append,
    filterMap_ofPart?_of_isName h, hlater, List.append_assoc]

/-- A path below a root is, relative to the root, the path of its names. -/
theorem relativeTo_join (hroot : root.text.toList ≠ []) (hne : names ≠ [])
    (h : ∀ name ∈ names, isName name = true) :
    (root.join (ofNames names)).relativeTo root = ofNames names := by
  have hnames : (names.map Step.name).map Step.text = names := by
    rw [List.map_map]
    exact List.map_id names
  rw [relativeTo, relativeTo?, steps_join hroot hne h,
    if_pos (List.isPrefixOf_iff_prefix.mpr (List.prefix_append _ _)), List.drop_left, hnames]
  rfl

/-- The parts of a path below a root are those of the root, without a point that stands for a slash
at its end, and then the names. -/
theorem parts_join (hroot : root.text.toList ≠ []) (hne : names ≠ [])
    (h : ∀ name ∈ names, isName name = true) :
    ∃ way, Disk.parts (root.join (ofNames names)).text = way ++ names ∧
      (Disk.parts root.text = way ++ ["."] ∨ Disk.parts root.text = way) := by
  obtain ⟨r, htext, hr⟩ := join_cases hroot hne h
  have hnames : ((names.map String.toList).filter (!·.isEmpty)).map String.ofList = names := by
    rw [List.filter_eq_self.mpr, List.map_map]
    · simp
    · intro t ht
      obtain ⟨name, hname, rfl⟩ := List.mem_map.mp ht
      simpa using toList_ne_nil_of_isName (h name hname)
  have hlast : (r ++ '/' :: (ofNames names).text.toList).getLast? ≠ some '/' := by
    rw [List.getLast?_append_of_ne_nil _ (List.cons_ne_nil _ _), List.getLast?_cons_of_ne_nil
      (toList_ofNames_ne_nil hne h)]
    exact getLast?_ofNames hne h
  refine ⟨((pieces '/' r).filter (!·.isEmpty)).map String.ofList, ?_, ?_⟩
  · rw [Disk.parts, htext, if_neg hlast, pieces_append, pieces_ofNames hne h, List.filter_append,
      List.map_append, hnames]
  · -- The root ends with a slash, so that its last part is a point, or it does not.
    rcases hr with hr | ⟨hr, hslash⟩
    · left
      rw [Disk.parts, hr, if_pos (by simp), pieces_append]
      simp [pieces]
    · right
      rw [Disk.parts, if_neg hslash, hr]

theorem isFromRoot_join (hroot : root.text.toList ≠ []) (hne : names ≠ [])
    (h : ∀ name ∈ names, isName name = true) :
    Disk.isFromRoot (root.join (ofNames names)).text = Disk.isFromRoot root.text := by
  obtain ⟨r, htext, hr⟩ := join_cases hroot hne h
  rw [Disk.isFromRoot, Disk.isFromRoot, htext]
  rcases hr with hr | ⟨hr, -⟩
  · rw [hr]
    cases r <;> rfl
  · subst hr
    rw [List.head?_append_of_ne_nil _ hroot]

end

end Path

end DesignTokens
