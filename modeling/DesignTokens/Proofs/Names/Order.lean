import DesignTokens.Names

/-! # The order of names

Code points order texts and names strictly and totally, so a set of names is one list only: the
increasing list of its members.

## Main definitions

* `Names.Increasing` - a list of names in strictly increasing order

## Main results

* `Names.increasing_ofList`, `Names.increasing_union` - sets are increasing
* `Names.Increasing.ext` - two sets with the same members are equal
-/

namespace DesignTokens

namespace Text

theorem lt_irrefl (t : Text) : lt t t = false := by
  induction t with
  | nil => rfl
  | cons c t ih => simp [lt, ih]

theorem lt_trans {s t u : Text} (hst : lt s t = true) (htu : lt t u = true) : lt s u = true := by
  induction s generalizing t u with
  | nil =>
    cases u with
    | nil => cases t <;> cases htu
    | cons => rfl
  | cons c s ih =>
    cases t with
    | nil => cases hst
    | cons d t =>
      cases u with
      | nil => cases htu
      | cons e u =>
        simp only [lt, Bool.or_eq_true, decide_eq_true_eq, Bool.and_eq_true] at hst htu ⊢
        rcases hst with hcd | ⟨rfl, hst⟩
        · rcases htu with hde | ⟨rfl, -⟩
          · exact .inl (by omega)
          · exact .inl hcd
        · rcases htu with hde | ⟨rfl, htu⟩
          · exact .inl hde
          · exact .inr ⟨rfl, ih hst htu⟩

/-- Of two different texts one comes first. -/
theorem lt_of_ne {s t : Text} (hne : s ≠ t) (h : lt s t = false) : lt t s = true := by
  induction s generalizing t with
  | nil =>
    cases t with
    | nil => exact absurd rfl hne
    | cons => cases h
  | cons c s ih =>
    cases t with
    | nil => rfl
    | cons d t =>
      simp only [lt, Bool.or_eq_false_iff, decide_eq_false_iff_not, Bool.and_eq_false_iff] at h
      simp only [lt, Bool.or_eq_true, decide_eq_true_eq, Bool.and_eq_true]
      by_cases hcd : c = d
      · subst hcd
        have hst : lt s t = false := h.2.resolve_left (by simp)
        exact .inr ⟨rfl, ih (by rintro rfl; exact hne rfl) hst⟩
      · have hne' : c.toNat ≠ d.toNat := fun heq => hcd (Char.toNat_inj.mp heq)
        exact .inl (by omega)

end Text

theorem nameLt_irrefl (a : String) : nameLt a a = false :=
  Text.lt_irrefl _

theorem nameLt_trans {a b c : String} (hab : nameLt a b = true) (hbc : nameLt b c = true) :
    nameLt a c = true :=
  Text.lt_trans hab hbc

theorem nameLt_of_ne {a b : String} (hne : a ≠ b) (h : nameLt a b = false) : nameLt b a = true :=
  Text.lt_of_ne (fun heq => hne (String.toList_inj.mp heq)) h

theorem nameLt_asymm {a b : String} (hab : nameLt a b = true) : nameLt b a = false := by
  cases hba : nameLt b a with
  | false => rfl
  | true => rw [← nameLt_irrefl a, nameLt_trans hab hba]

namespace Names

/-- A list of names in strictly increasing order. -/
def Increasing (names : List String) : Prop :=
  names.Pairwise (nameLt · · = true)

instance (names : List String) : Decidable (Increasing names) :=
  inferInstanceAs (Decidable (names.Pairwise (nameLt · · = true)))

theorem Increasing.nodup {names : List String} (h : Increasing names) : names.Nodup := by
  refine List.Pairwise.imp ?_ h
  rintro a b hab rfl
  rw [nameLt_irrefl] at hab
  cases hab

/-- Two sets with the same members are equal. -/
theorem Increasing.ext {a b : List String} (ha : Increasing a) (hb : Increasing b)
    (h : ∀ x, x ∈ a ↔ x ∈ b) : a = b := by
  refine List.Perm.eq_of_pairwise ?_ ha hb ((List.perm_ext_iff_of_nodup ha.nodup hb.nodup).mpr h)
  intro x y _ _ hxy hyx
  rw [nameLt_asymm hxy] at hyx
  cases hyx

theorem increasing_insert {set : Names} (name : String) (h : Increasing set) :
    Increasing (insert name set) := by
  induction set with
  | nil => simp [insert, Increasing]
  | cons other rest ih =>
    obtain ⟨hother, hrest⟩ := List.pairwise_cons.mp h
    rw [insert]
    split
    · exact h
    · rename_i hne
      split
      · rename_i hlt
        refine List.pairwise_cons.mpr ⟨?_, h⟩
        intro x hx
        rcases List.mem_cons.mp hx with rfl | hx
        · exact hlt
        · exact nameLt_trans hlt (hother x hx)
      · rename_i hlt
        have hgt := nameLt_of_ne hne (Bool.not_eq_true _ ▸ hlt)
        refine List.pairwise_cons.mpr ⟨?_, ih hrest⟩
        intro x hx
        rcases mem_insert.mp hx with rfl | hx
        · exact hgt
        · exact hother x hx

theorem increasing_union {a : Names} (b : List String) (h : Increasing a) :
    Increasing (a.union b) := by
  induction b generalizing a with
  | nil => exact h
  | cons name b ih => exact ih (increasing_insert name h)

theorem increasing_ofList (names : List String) : Increasing (ofList names) :=
  increasing_union names .nil

@[simp] theorem mem_union {x : String} {a b : Names} : x ∈ a.union b ↔ x ∈ a ∨ x ∈ b := by
  induction b generalizing a with
  | nil => simp [union]
  | cons name b ih =>
    have hstep : a.union (name :: b) = (insert name a).union b := rfl
    rw [hstep, ih, mem_insert, List.mem_cons]
    grind

@[simp] theorem mem_ofList {x : String} {names : List String} : x ∈ ofList names ↔ x ∈ names := by
  rw [show ofList names = union [] names from rfl, mem_union]
  simp

/-- A set is not changed by members it has. -/
theorem union_eq_self {a b : Names} (ha : Increasing a) (h : ∀ x ∈ b, x ∈ a) : a.union b = a := by
  refine (increasing_union b ha).ext ha fun x => ?_
  rw [mem_union]
  exact ⟨fun hx => hx.elim id (h x), .inl⟩

theorem union_comm {a b : Names} (ha : Increasing a) (hb : Increasing b) :
    a.union b = b.union a := by
  refine (increasing_union b ha).ext (increasing_union a hb) fun x => ?_
  rw [mem_union, mem_union, or_comm]

end Names

end DesignTokens
