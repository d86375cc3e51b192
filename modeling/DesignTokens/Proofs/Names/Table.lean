import DesignTokens.Proofs.Names.Order

/-! # Tables by name

A table files one value under each of its names. To change the value under a name is to insert the
name into the set of those that have one, and leaves what is filed under the others.

## Main results

* `ByName.map_fst_alter` - the names of a changed table
* `ByName.mem_alter` - what is filed in a changed table
* `ByName.get?_insert` - what is found in a table where a value was filed
-/

namespace DesignTokens.ByName

variable {α : Type}

/-- The names of a changed table: those of the table, and the name itself. -/
theorem map_fst_alter (name : String) (change : Option α → α) (table : ByName α) :
    (alter name change table).map (·.1) = Names.insert name (table.map (·.1)) := by
  induction table with
  | nil => rfl
  | cons entry table ih =>
    obtain ⟨other, value⟩ := entry
    simp only [alter, List.map_cons, Names.insert]
    by_cases heq : name = other
    · rw [if_pos heq, if_pos heq]
      rfl
    · rw [if_neg heq, if_neg heq]
      by_cases hlt : nameLt name other = true
      · rw [if_pos hlt, if_pos hlt]
        rfl
      · rw [if_neg hlt, if_neg hlt, List.map_cons, ih]

/-- What is found in a table where a value was filed. -/
theorem get?_insert (name other : String) (value : α) (table : ByName α) :
    get? other (insert name value table) =
      if other = name then some value else get? other table := by
  induction table with
  | nil => simp [insert, alter, get?]
  | cons entry table ih =>
    obtain ⟨first, old⟩ := entry
    rw [insert, alter]
    rw [insert] at ih
    by_cases heq : name = first
    · subst heq
      by_cases hother : other = name <;> simp [get?, hother]
    · rw [if_neg heq]
      by_cases hlt : nameLt name first = true
      · rw [if_pos hlt]
        simp [get?]
      · -- The value is filed further on, so the first entry is still the first.
        rw [if_neg hlt, get?, ih, get?]
        by_cases hfirst : other = first
        · subst hfirst
          simp [Ne.symm heq]
        · simp [hfirst]

theorem mem_of_get? {name : String} {value : α} {table : ByName α}
    (h : get? name table = some value) : (name, value) ∈ table := by
  induction table with
  | nil => cases h
  | cons entry table ih =>
    obtain ⟨first, old⟩ := entry
    rw [get?] at h
    split at h
    · rename_i heq
      subst heq
      cases h
      exact List.mem_cons_self
    · exact List.mem_cons_of_mem _ (ih h)

theorem get?_eq_none_iff {name : String} {table : ByName α} :
    get? name table = none ↔ name ∉ table.map (·.1) := by
  induction table with
  | nil => simp [get?]
  | cons entry table ih =>
    obtain ⟨first, old⟩ := entry
    by_cases heq : name = first
    · simp [get?, heq]
    · simpa [get?, heq] using ih

/-- A table with increasing names has one value under a name. -/
theorem get?_eq_some_iff {name : String} {value : α} {table : ByName α}
    (h : Names.Increasing (table.map (·.1))) :
    get? name table = some value ↔ (name, value) ∈ table := by
  refine ⟨mem_of_get?, fun hmem => ?_⟩
  induction table with
  | nil => cases hmem
  | cons entry table ih =>
    obtain ⟨first, old⟩ := entry
    rw [List.map_cons] at h
    obtain ⟨hfirst, htable⟩ := List.pairwise_cons.mp h
    rcases List.mem_cons.mp hmem with heq | hlater
    · cases heq
      simp [get?]
    · have hname : name ∈ table.map (·.1) := List.mem_map_of_mem hlater
      have hne : name ≠ first := by
        rintro rfl
        have hlt := hfirst name hname
        rw [nameLt_irrefl] at hlt
        cases hlt
      rw [get?, if_neg hne]
      exact ih htable hlater

/-- What is filed in a changed table: what was filed under other names, and what the change makes of
what was filed under the name. -/
theorem mem_alter {name other : String} {change : Option α → α} {value : α} {table : ByName α}
    (h : Names.Increasing (table.map (·.1))) :
    (other, value) ∈ alter name change table ↔
      if other = name then value = change (get? name table) else (other, value) ∈ table := by
  induction table with
  | nil =>
    simp only [alter, get?, List.mem_singleton, Prod.mk.injEq, List.not_mem_nil]
    split <;> simp_all
  | cons entry table ih =>
    obtain ⟨first, old⟩ := entry
    rw [List.map_cons] at h
    obtain ⟨hfirst, htable⟩ := List.pairwise_cons.mp h
    have hbefore : ∀ v, (first, v) ∉ table := by
      intro v hv
      have hname : first ∈ table.map (·.1) := List.mem_map_of_mem hv
      have hlt := hfirst first hname
      rw [nameLt_irrefl] at hlt
      cases hlt
    rw [alter]
    by_cases heq : name = first
    · subst heq
      rw [if_pos rfl, get?, if_pos rfl]
      by_cases hother : other = name
      · subst hother
        simp [hbefore]
      · simp [hother]
    · rw [if_neg heq, get?, if_neg heq]
      by_cases hlt : nameLt name first = true
      · -- Every name of the table comes after the new one, which is therefore none of them.
        rw [if_pos hlt]
        have habsent : name ∉ table.map (·.1) := by
          intro hmem
          have hgt := hfirst name hmem
          rw [nameLt_asymm hlt] at hgt
          cases hgt
        have hmissing : ∀ v, (name, v) ∉ table := fun v hv => habsent (List.mem_map_of_mem hv)
        rw [get?_eq_none_iff.mpr habsent]
        by_cases hother : other = name
        · subst hother
          simp [heq, hmissing]
        · simp [hother]
      · rw [if_neg hlt, List.mem_cons, ih htable]
        by_cases hother : other = name
        · subst hother
          simp [heq]
        · simp [hother]

/-- A value that is filed under a new name takes the place of none. -/
theorem perm_insert_of_new {name : String} (value : α) {table : ByName α}
    (h : name ∉ table.map (·.1)) : (insert name value table).Perm ((name, value) :: table) := by
  induction table with
  | nil => exact .refl _
  | cons first table ih =>
    obtain ⟨other, old⟩ := first
    rw [List.map_cons, List.mem_cons, not_or] at h
    rw [insert, alter, if_neg h.1]
    split
    · exact .refl _
    · exact ((ih h.2).cons _).trans (.swap _ _ _)

theorem mem_insert_of_new {name : String} {value : α} {table : ByName α}
    (h : name ∉ table.map (·.1)) {entry : String × α} :
    entry ∈ insert name value table ↔ entry = (name, value) ∨ entry ∈ table := by
  rw [(perm_insert_of_new value h).mem_iff, List.mem_cons]

end DesignTokens.ByName
