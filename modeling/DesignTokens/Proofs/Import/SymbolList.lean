import DesignTokens.Import.Edit
import DesignTokens.Proofs.Names.Order
import DesignTokens.Proofs.Text.Parts
import Mathlib.Data.List.Sort

/-! # Lists of names

A list of names in braces is read in two ways: entry by entry, to edit it, and by the last word of
each entry, to see what it binds. On lists of plain names the two agree, and a list that was written
is read back.

## Main results

* `Import.listEntries_spaced` - the names of a list that was written are those it was written from
* `Import.filterMap_boundName?_pieces` - a list of plain names binds its entries
* `Import.hasAlias_append_cons` - the word `as` stands on one side of a character that is of no word
* `Import.sortSymbols_eq_of_perm` - the order of a written list depends on its names only
-/

namespace DesignTokens.Import

open Character Text

/-! ### Entries -/

section

variable {a b inner : Text} {ts : List Text}

theorem listEntries_append_comma (h : ',' ∉ a) :
    listEntries (a ++ ',' :: b) = listEntries a ++ listEntries b := by
  simp only [listEntries, pieces_append_cons h, pieces_of_not_mem h]
  rw [← List.filter_append, ← List.map_append]
  rfl

theorem isBlank_of_mem_space : ∀ x ∈ [' '], isBlank x = true :=
  List.forall_mem_singleton.mpr (by decide)

theorem trim_spaced {name : Text} (h : isIdentifier name = true) (hb : ∀ x ∈ b, isBlank x = true) :
    trim (' ' :: name ++ b) = name := by
  have hname := isBlank_of_isIdentifier h
  exact trim_append_of_blanks isBlank_of_mem_space hb
    (fun x hx => hname x (List.mem_of_mem_head? hx))
    (fun x hx => hname x (List.mem_of_mem_getLast? hx))

theorem listEntries_identifier {name : Text} (h : isIdentifier name = true)
    (hb : ∀ x ∈ b, isBlank x = true) : listEntries (' ' :: name ++ b) = [name] := by
  have hcomma : ',' ∉ ' ' :: name ++ b := by
    simp only [List.cons_append, List.mem_cons, List.mem_append, not_or]
    refine ⟨by decide, not_mem_of_isIdentifier h (by decide), fun hmem => ?_⟩
    exact absurd (hb _ hmem) (by decide)
  rw [listEntries, pieces_of_not_mem hcomma, List.map_singleton, trim_spaced h hb]
  simp [ne_nil_of_isIdentifier h]

/-- The names of a list that was written are those it was written from. -/
theorem listEntries_spaced (h : ∀ t ∈ ts, isIdentifier t = true) :
    listEntries (' ' :: joinWith [',', ' '] ts ++ [' ']) = ts := by
  induction ts with
  | nil => decide
  | cons t ts ih =>
    have ht := h t List.mem_cons_self
    cases ts with
    | nil => exact listEntries_identifier ht isBlank_of_mem_space
    | cons t' ts =>
      have htext : ' ' :: joinWith [',', ' '] (t :: t' :: ts) ++ [' '] =
          (' ' :: t ++ []) ++ ',' :: (' ' :: joinWith [',', ' '] (t' :: ts) ++ [' ']) := by
        simp [joinWith]
      have hcomma : ',' ∉ ' ' :: t ++ [] := by
        simp only [List.append_nil, List.mem_cons, not_or]
        exact ⟨by decide, not_mem_of_isIdentifier ht (by decide)⟩
      rw [htext, listEntries_append_comma hcomma, listEntries_identifier ht (by simp),
        ih fun x hx => h x (List.mem_cons_of_mem t hx)]
      rfl

theorem boundName?_of_trim_eq_nil {entry : Text} (h : trim entry = []) :
    boundName? entry = none := by
  simp [boundName?, words_of_trim_eq_nil h]

theorem boundName?_of_isIdentifier_trim {entry : Text} (h : isIdentifier (trim entry) = true) :
    boundName? entry = some (trim entry) := by
  simp [boundName?, words_of_trim rfl (ne_nil_of_isIdentifier h) (isBlank_of_isIdentifier h), h]

/-- A list of plain names binds its entries. -/
theorem filterMap_boundName?_pieces (h : ∀ t ∈ listEntries inner, isIdentifier t = true) :
    (pieces ',' inner).filterMap boundName? = listEntries inner := by
  rw [listEntries] at h ⊢
  generalize pieces ',' inner = parts at h ⊢
  induction parts with
  | nil => rfl
  | cons p ps ih =>
    simp only [List.map_cons, List.filter_cons] at h ⊢
    split at h
    · rename_i hp
      rw [if_pos hp, List.filterMap_cons_some (boundName?_of_isIdentifier_trim (h _ (by simp))),
        ih fun t ht => h t (List.mem_cons_of_mem _ ht)]
    · rename_i hp
      rw [if_neg hp, List.filterMap_cons_none (boundName?_of_trim_eq_nil (by simpa using hp)), ih h]

end

/-! ### The word `as` -/

section

variable {a b t : Text} {c : Char}

theorem hasAlias_iff : hasAlias t = true ↔
    ∃ u v, t = u ++ ['a', 's'] ++ v ∧ isWordSide u.getLast? = false ∧
      isWordSide v.head? = false := by
  have hword : isWordSide (some 'a') = true ∧ isWordSide (some 's') = true := by decide
  rw [hasAlias, findWhole_isSome_iff]
  simp [boundary, hword]

/-- The word `as` stands on one side of a character that is of no word. -/
theorem hasAlias_append_cons (hc : isWord c = false) :
    hasAlias (a ++ c :: b) = (hasAlias a || hasAlias b) := by
  rw [Bool.eq_iff_iff, Bool.or_eq_true, hasAlias_iff, hasAlias_iff, hasAlias_iff]
  constructor
  · rintro ⟨u, v, heq, hu, hv⟩
    rw [List.append_assoc] at heq
    rcases append_eq_append_cons heq.symm with ⟨w, rfl, rfl⟩ | ⟨w, rfl, hw⟩
    · -- The word stands behind `c`.
      refine .inr ⟨w, v, by simp, ?_, hv⟩
      cases hlast : w.getLast? with
      | none => rfl
      | some x => simpa [List.getLast?_cons, hlast] using hu
    · -- The word starts in `a`, and neither of its letters is `c`.
      match w with
      | [] =>
        obtain ⟨rfl, -⟩ : 'a' = c ∧ _ := by simpa using hw
        exact absurd hc (by decide)
      | [d] =>
        obtain ⟨-, rfl, -⟩ : 'a' = d ∧ 's' = c ∧ _ := by simpa using hw
        exact absurd hc (by decide)
      | d :: e :: w =>
        obtain ⟨rfl, rfl, rfl⟩ : 'a' = d ∧ 's' = e ∧ v = w ++ c :: b := by simpa using hw
        refine .inl ⟨u, w, by simp, hu, ?_⟩
        cases w with
        | nil => rfl
        | cons x w => simpa using hv
  · -- On the other side of the word `c` ends it as the end of the text does.
    rintro (⟨u, v, rfl, hu, hv⟩ | ⟨u, v, rfl, hu, hv⟩)
    · refine ⟨u, v ++ c :: b, by simp, hu, ?_⟩
      cases v with
      | nil => simpa [isWordSide] using hc
      | cons x v => simpa using hv
    · refine ⟨a ++ c :: u, v, by simp, ?_, hv⟩
      cases hlast : u.getLast? with
      | none => simpa [List.getLast?_cons, hlast, isWordSide] using hc
      | some x => simpa [List.getLast?_cons, hlast] using hu

theorem hasAlias_cons (hc : isWord c = false) : hasAlias (c :: b) = hasAlias b :=
  hasAlias_append_cons (a := []) hc

theorem hasAlias_of_blanks_append (h : ∀ x ∈ a, isBlank x = true) :
    hasAlias (a ++ b) = hasAlias b := by
  induction a with
  | nil => rfl
  | cons x a ih =>
    rw [List.cons_append, hasAlias_cons (isWord_of_isBlank (h x List.mem_cons_self)),
      ih fun y hy => h y (List.mem_cons_of_mem x hy)]

theorem hasAlias_append_of_blanks (h : ∀ x ∈ b, isBlank x = true) :
    hasAlias (a ++ b) = hasAlias a := by
  cases b with
  | nil => rw [List.append_nil]
  | cons x b =>
    have hb := hasAlias_of_blanks_append (b := []) fun y hy => h y (List.mem_cons_of_mem x hy)
    rw [List.append_nil] at hb
    rw [hasAlias_append_cons (isWord_of_isBlank (h x List.mem_cons_self)), hb]
    simp [show hasAlias [] = false from rfl]

theorem hasAlias_trim (t : Text) : hasAlias (trim t) = hasAlias t := by
  obtain ⟨u, v, hu, hv, heq⟩ := exists_blanks_trim t
  rw [heq, hasAlias_append_of_blanks hv, hasAlias_of_blanks_append hu, ← heq]

/-- No entry of a list without the word has it. -/
theorem hasAlias_of_mem_listEntries (h : hasAlias t = false) :
    ∀ name ∈ listEntries t, hasAlias name = false := by
  intro name hname
  obtain ⟨hmem, -⟩ := List.mem_filter.mp hname
  obtain ⟨p, hp, rfl⟩ := List.mem_map.mp hmem
  rw [hasAlias_trim]
  clear hname hmem
  induction hn : t.length using Nat.strongRecOn generalizing t with
  | _ n ih =>
    rcases pieces_cases ',' t with ⟨-, heq⟩ | ⟨u, v, rfl, -, heq⟩
    · rw [heq, List.mem_singleton] at hp
      rw [hp, h]
    · rw [hasAlias_append_cons (by decide), Bool.or_eq_false_iff] at h
      rw [heq] at hp
      rcases List.mem_cons.mp hp with rfl | hp
      · exact h.1
      · exact ih v.length (by simp at hn; omega) h.2 hp rfl

theorem hasAlias_spaced {ts : List Text} (h : ∀ t ∈ ts, hasAlias t = false) :
    hasAlias (' ' :: joinWith [',', ' '] ts ++ [' ']) = false := by
  rw [List.cons_append, hasAlias_cons (by decide), hasAlias_append_of_blanks isBlank_of_mem_space]
  induction ts with
  | nil => rfl
  | cons t ts ih =>
    have ht := h t List.mem_cons_self
    cases ts with
    | nil => exact ht
    | cons t' ts =>
      have htext : joinWith [',', ' '] (t :: t' :: ts) =
          t ++ ',' :: (' ' :: joinWith [',', ' '] (t' :: ts)) := by
        simp [joinWith]
      rw [htext, hasAlias_append_cons (by decide), hasAlias_cons (by decide), ht,
        ih fun x hx => h x (List.mem_cons_of_mem t hx)]
      rfl

end

/-! ### The order of a written list -/

theorem symbolLe_iff {a b : String} : symbolLe a b = true ↔
    Text.lt (lowerText a.toList) (lowerText b.toList) = true ∨
      lowerText a.toList = lowerText b.toList ∧ nameLt b a = false := by
  simp [symbolLe]

theorem symbolLe_total (a b : String) : (symbolLe a b || symbolLe b a) = true := by
  rw [Bool.or_eq_true, symbolLe_iff, symbolLe_iff]
  by_cases heq : lowerText a.toList = lowerText b.toList
  · cases hab : nameLt a b with
    | false => exact .inr (.inr ⟨heq.symm, rfl⟩)
    | true => exact .inl (.inr ⟨heq, nameLt_asymm hab⟩)
  · cases hlt : Text.lt (lowerText a.toList) (lowerText b.toList) with
    | true => exact .inl (.inl rfl)
    | false => exact .inr (.inl (Text.lt_of_ne heq hlt))

theorem nameLt_not_trans {a b c : String} (hba : nameLt b a = false) (hcb : nameLt c b = false) :
    nameLt c a = false := by
  by_cases hab : a = b
  · rw [hab]
    exact hcb
  by_cases hbc : b = c
  · rw [← hbc]
    exact hba
  exact nameLt_asymm (nameLt_trans (nameLt_of_ne (Ne.symm hab) hba)
    (nameLt_of_ne (Ne.symm hbc) hcb))

theorem symbolLe_trans (a b c : String) (hab : symbolLe a b = true) (hbc : symbolLe b c = true) :
    symbolLe a c = true := by
  rw [symbolLe_iff] at *
  rcases hab with hab | ⟨heq, hba⟩
  · rcases hbc with hbc | ⟨heq', -⟩
    · exact .inl (Text.lt_trans hab hbc)
    · exact .inl (heq' ▸ hab)
  · rcases hbc with hbc | ⟨heq', hcb⟩
    · exact .inl (heq ▸ hbc)
    · exact .inr ⟨heq.trans heq', nameLt_not_trans hba hcb⟩

theorem symbolLe_antisymm {a b : String} (hab : symbolLe a b = true) (hba : symbolLe b a = true) :
    a = b := by
  rw [symbolLe_iff] at *
  rcases hab with hab | ⟨heq, hba'⟩
  · rcases hba with hba | ⟨heq, -⟩
    · have := Text.lt_trans hab hba
      rw [Text.lt_irrefl] at this
      cases this
    · rw [heq, Text.lt_irrefl] at hab
      cases hab
  · rcases hba with hba | ⟨-, hab'⟩
    · rw [heq, Text.lt_irrefl] at hba
      cases hba
    · by_contra hne
      rw [nameLt_of_ne hne hab'] at hba'
      cases hba'

theorem mem_sortSymbols {x : String} {symbols : List String} :
    x ∈ sortSymbols symbols ↔ x ∈ symbols :=
  List.mem_mergeSort

/-- The order of a written list depends on its names only. -/
theorem sortSymbols_eq_of_perm {a b : List String} (h : a.Perm b) :
    sortSymbols a = sortSymbols b := by
  refine List.Perm.eq_of_pairwise (fun x y _ _ => symbolLe_antisymm)
    (List.pairwise_mergeSort symbolLe_trans symbolLe_total a)
    (List.pairwise_mergeSort symbolLe_trans symbolLe_total b) ?_
  exact (List.mergeSort_perm a _).trans (h.trans (List.mergeSort_perm b _).symm)

/-- A list is in the order that inserting name by name gives. -/
theorem sortSymbols_eq_insertionSort (symbols : List String) :
    sortSymbols symbols = symbols.insertionSort (symbolLe · · = true) := by
  have htrans : IsTrans String (symbolLe · · = true) := ⟨fun _ _ _ => symbolLe_trans _ _ _⟩
  have htotal : Std.Total (α := String) (symbolLe · · = true) :=
    ⟨fun a b => by simpa using symbolLe_total a b⟩
  have hantisymm : Std.Antisymm (α := String) (symbolLe · · = true) :=
    ⟨fun _ _ => symbolLe_antisymm⟩
  rw [← List.mergeSort_eq_insertionSort]
  simp only [sortSymbols, Bool.decide_eq_true]

theorem mem_addMissing {x : String} {symbols required : List String} :
    x ∈ addMissing symbols required ↔ x ∈ symbols ∨ x ∈ required := by
  by_cases hx : x ∈ symbols <;> simp [addMissing, hx]

section

variable {symbols a b u : List String}

/-- Names that a list has already make no difference to what is added. -/
theorem sortSymbols_addMissing_of_subset (hb : b.Nodup) (hu : u.Nodup)
    (hmem : ∀ x, x ∈ u ↔ x ∈ a ∨ x ∈ b) (hsub : ∀ x ∈ a, x ∈ symbols) :
    sortSymbols (addMissing symbols b) = sortSymbols (addMissing symbols u) := by
  refine sortSymbols_eq_of_perm (List.Perm.append_left symbols ?_)
  refine (List.perm_ext_iff_of_nodup (hb.filter _) (hu.filter _)).mpr fun x => ?_
  simp only [List.mem_filter, hmem, Bool.not_eq_true', List.contains_eq_mem,
    decide_eq_false_iff_not]
  grind

/-- Names that are added in two steps make the list that they make at once. -/
theorem sortSymbols_addMissing_addMissing (ha : a.Nodup) (hb : b.Nodup) (hu : u.Nodup)
    (hmem : ∀ x, x ∈ u ↔ x ∈ a ∨ x ∈ b) :
    sortSymbols (addMissing (sortSymbols (addMissing symbols a)) b) =
      sortSymbols (addMissing symbols u) := by
  refine sortSymbols_eq_of_perm ?_
  have hfirst : (sortSymbols (addMissing symbols a)).Perm
      (symbols ++ a.filter (!symbols.contains ·)) :=
    List.mergeSort_perm _ _
  refine (hfirst.append_right _).trans ?_
  rw [List.append_assoc]
  refine List.Perm.append_left symbols ?_
  -- What the two calls add are different names, as the second adds only what is missing.
  have hdisjoint : (a.filter (!symbols.contains ·) ++
      b.filter (!(sortSymbols (addMissing symbols a)).contains ·)).Nodup := by
    refine List.nodup_append.mpr ⟨ha.filter _, hb.filter _, ?_⟩
    rintro x hx y hy rfl
    have hxa := (List.mem_filter.mp hx).1
    have hnot := (List.mem_filter.mp hy).2
    simp [mem_sortSymbols, mem_addMissing, hxa] at hnot
  refine (List.perm_ext_iff_of_nodup hdisjoint (hu.filter _)).mpr fun x => ?_
  simp only [List.mem_append, List.mem_filter, hmem, Bool.not_eq_true', List.contains_eq_mem,
    decide_eq_false_iff_not, mem_sortSymbols, mem_addMissing]
  grind

end

end DesignTokens.Import
