import Mathlib.Data.List.Sort
import DesignTokens.Proofs.Names.Order
import DesignTokens.Report.Basic

/-! # The order of paths

Paths are ordered step by step, and a path comes before all that lies below it. The order is strict,
and of two paths with different steps one comes first. A report files its findings in this order, so
that whoever goes through files in increasing order goes along the entries of the report.

## Main definitions

* `Path.Ascending` - a list of paths in strictly increasing order

## Main results

* `Path.lt_trans`, `Path.lt_of_not_same` - the order is strict and total up to spelling
* `Path.ltSteps_append` - what comes first is decided behind a common beginning
* `Report.sublist_extend` - the entries of a report stand in the order of ascending paths
-/

namespace DesignTokens

namespace Path

variable {a b c : Step} {s t u : List Step}

/-! ### Steps -/

theorem Step.lt_irrefl (a : Step) : a.lt a = false := by
  cases a with
  | name own => exact nameLt_irrefl own
  | _ => rfl

theorem Step.lt_trans (hab : a.lt b = true) (hbc : b.lt c = true) : a.lt c = true := by
  cases a <;> cases b <;> cases c <;>
    first
    | exact nameLt_trans hab hbc
    | simp_all [Step.lt, Step.rank]

/-- Of two different steps one comes first. -/
theorem Step.lt_of_ne (hne : a ≠ b) (h : a.lt b = false) : b.lt a = true := by
  cases a <;> cases b <;>
    first
    | exact nameLt_of_ne (fun heq => hne (congrArg Step.name heq)) h
    | simp_all [Step.lt, Step.rank]

/-! ### Lists of steps -/

theorem ltSteps_cons : ltSteps (a :: s) (b :: t) = true ↔
    a.lt b = true ∨ a = b ∧ ltSteps s t = true := by
  simp [ltSteps]

/-- What comes first is decided behind a common beginning. -/
theorem ltSteps_append (u s t : List Step) : ltSteps (u ++ s) (u ++ t) = ltSteps s t := by
  induction u with
  | nil => rfl
  | cons a u ih =>
    rw [List.cons_append, List.cons_append, ltSteps, Step.lt_irrefl, ih]
    simp

theorem ltSteps_irrefl (s : List Step) : ltSteps s s = false := by
  induction s with
  | nil => rfl
  | cons a s ih => simp [ltSteps, Step.lt_irrefl, ih]

theorem ltSteps_trans (hst : ltSteps s t = true) (htu : ltSteps t u = true) :
    ltSteps s u = true := by
  induction s generalizing t u with
  | nil =>
    cases u with
    | nil => cases t <;> cases htu
    | cons => rfl
  | cons a s ih =>
    cases t with
    | nil => cases hst
    | cons b t =>
      cases u with
      | nil => cases htu
      | cons c u =>
        rw [ltSteps_cons] at hst htu ⊢
        -- The first steps decide, and the rest does only if all three are the same.
        rcases hst with hab | ⟨rfl, hst⟩
        · rcases htu with hbc | ⟨rfl, -⟩
          · exact .inl (Step.lt_trans hab hbc)
          · exact .inl hab
        · rcases htu with hac | ⟨rfl, htu⟩
          · exact .inl hac
          · exact .inr ⟨rfl, ih hst htu⟩

/-- Of two different lists of steps one comes first. -/
theorem ltSteps_of_ne (hne : s ≠ t) (h : ltSteps s t = false) : ltSteps t s = true := by
  induction s generalizing t with
  | nil =>
    cases t with
    | nil => exact absurd rfl hne
    | cons => cases h
  | cons a s ih =>
    cases t with
    | nil => rfl
    | cons b t =>
      rw [← Bool.not_eq_true, ltSteps_cons, not_or] at h
      rw [ltSteps_cons]
      by_cases hab : a = b
      · subst hab
        have hst : ltSteps s t = false := by simpa using h.2
        exact .inr ⟨rfl, ih (fun heq => hne (congrArg _ heq)) hst⟩
      · exact .inl (Step.lt_of_ne hab (by simpa using h.1))

/-! ### Paths -/

variable {p q r : Path}

theorem lt_irrefl (p : Path) : p.lt p = false :=
  ltSteps_irrefl _

theorem lt_trans (hpq : p.lt q = true) (hqr : q.lt r = true) : p.lt r = true :=
  ltSteps_trans hpq hqr

/-- Of two paths with different steps one comes first. -/
theorem lt_of_not_same (hne : p.same q = false) (h : p.lt q = false) : q.lt p = true :=
  ltSteps_of_ne (by simpa [same] using hne) h

/-- A list of paths in strictly increasing order. -/
def Ascending (paths : List Path) : Prop :=
  paths.Pairwise (·.lt · = true)

theorem Ascending.nodup {paths : List Path} (h : Ascending paths) : paths.Nodup := by
  refine List.Pairwise.imp ?_ h
  rintro p q hpq rfl
  rw [lt_irrefl] at hpq
  cases hpq

instance antisymm_lt : Std.Antisymm fun p q : Path => p.lt q = true where
  antisymm p q hpq hqp := by
    have hpp := lt_trans hpq hqp
    rw [lt_irrefl] at hpp
    cases hpp

/-- Ascending paths among others that ascend stand in the same order. -/
theorem Ascending.sublist {paths others : List Path} (h : Ascending paths)
    (hothers : Ascending others) (hsub : paths ⊆ others) : paths.Sublist others :=
  List.sublist_of_subperm_of_pairwise (List.subperm_of_subset h.nodup hsub) h hothers

end Path

/-! ### The entries of a report -/

namespace Report

variable {report : Report} {path : Path} {change : List Finding → List Finding}
  {table : List (Path × List Finding)}

theorem mem_map_fst_alterFile {p : Path}
    (h : p ∈ (alterFile path change table).map Prod.fst) : p = path ∨ p ∈ table.map Prod.fst := by
  induction table with
  | nil =>
    left
    simpa [alterFile] using h
  | cons entry rest ih =>
    obtain ⟨other, findings⟩ := entry
    rw [alterFile] at h
    split at h
    · exact .inr h
    · split at h
      · exact List.mem_cons.mp h
      · rcases List.mem_cons.mp h with rfl | h
        · exact .inr List.mem_cons_self
        · exact (ih h).imp_right (List.mem_cons_of_mem _)

/-- Findings are filed so that the entries ascend. -/
theorem ascending_alterFile (h : Path.Ascending (table.map Prod.fst)) :
    Path.Ascending ((alterFile path change table).map Prod.fst) := by
  induction table with
  | nil => exact List.pairwise_singleton _ _
  | cons entry rest ih =>
    obtain ⟨other, findings⟩ := entry
    obtain ⟨hother, hrest⟩ := List.pairwise_cons.mp h
    rw [alterFile]
    split
    · exact h
    · rename_i hsame
      split
      · rename_i hlt
        refine List.pairwise_cons.mpr ⟨?_, h⟩
        intro p hp
        rcases List.mem_cons.mp hp with rfl | hp
        · exact hlt
        · exact Path.lt_trans hlt (hother p hp)
      · -- Neither the same nor before: the path comes after this entry.
        rename_i hlt
        have hgt : other.lt path = true :=
          Path.lt_of_not_same (Bool.not_eq_true _ ▸ hsame) (Bool.not_eq_true _ ▸ hlt)
        refine List.pairwise_cons.mpr ⟨?_, ih hrest⟩
        intro p hp
        rcases mem_map_fst_alterFile hp with rfl | hp
        · exact hgt
        · exact hother p hp

theorem ascending_extend (findings : List Finding)
    (h : Path.Ascending (report.perFile.map Prod.fst)) :
    Path.Ascending ((report.extend findings).perFile.map Prod.fst) := by
  induction findings generalizing report with
  | nil => exact h
  | cons finding findings ih => exact @ih (report.push finding) (ascending_alterFile h)

theorem mem_map_fst_extend {findings : List Finding} {p : Path}
    (h : p ∈ (report.extend findings).perFile.map Prod.fst) :
    (∃ f ∈ findings, f.file = p) ∨ p ∈ report.perFile.map Prod.fst := by
  induction findings generalizing report with
  | nil => exact .inr h
  | cons finding findings ih =>
    rcases @ih (report.push finding) h with ⟨f, hf, rfl⟩ | h
    · exact .inl ⟨f, List.mem_cons_of_mem _ hf, rfl⟩
    · rcases mem_map_fst_alterFile h with rfl | h
      · exact .inl ⟨finding, List.mem_cons_self, rfl⟩
      · exact .inr h

/-- The entries of a report on ascending paths stand in their order. -/
theorem sublist_extend {paths : List Path} {findings : List Finding} (hpaths : Path.Ascending paths)
    (hreport : report.perFile = []) (hfindings : ∀ f ∈ findings, f.file ∈ paths) :
    ((report.extend findings).perFile.map Prod.fst).Sublist paths := by
  refine (ascending_extend findings ?_).sublist hpaths ?_
  · rw [hreport]
    exact List.Pairwise.nil
  · intro p hp
    rcases mem_map_fst_extend hp with ⟨f, hf, rfl⟩ | hp
    · exact hfindings f hf
    · rw [hreport] at hp
      cases hp

end Report

end DesignTokens
