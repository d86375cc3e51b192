import DesignTokens.Character.Class
import Mathlib.Data.List.Basic

/-! # Classes of characters that have no member in common

Texts are cut at blanks and quotes, and names are made of letters, digits and a few marks. That a
name is never cut rests on these classes being disjoint. Below code point 128 this is a matter of
comparing numbers. Above it the tables of the standard are looked through once for each code point
of a blank.

## Main definitions

* `Character.blankCodes` - the code points of white space
* `RangeTable.avoids` - whether no range of a table has one of several code points

## Main results

* `Character.isIdentifierPart_of_isBlank` - a blank is no part of an identifier
* `Character.isWord_of_isBlank` - a blank is no character of words
-/

namespace DesignTokens

namespace RangeTable

/-! ### Tables and code points -/

/-- Whether no range of a table has one of several code points. -/
def avoids (codes : List Nat) (table : RangeTable) : Bool :=
  table.ranges.all fun r => codes.all fun n => n < r.1 || r.2 < n

/-- A packed text is looked through as the list of its characters. -/
theorem avoids_ofPacked_ofList (codes : List Nat) (cs : List Char) :
    avoids codes (ofPacked (String.ofList cs)) =
      (rangesFrom 0 (numbersFrom none cs)).all fun r => codes.all fun n => n < r.1 || r.2 < n := by
  simp only [avoids, ofPacked, numbers, String.toList_ofList]

theorem lt_or_lt_of_avoids {codes : List Nat} {table : RangeTable} {r : Nat × Nat} {n : Nat}
    (h : avoids codes table = true) (hr : r ∈ table.ranges) (hn : n ∈ codes) :
    n < r.1 ∨ r.2 < n := by
  have hcodes := List.all_eq_true.mp (List.all_eq_true.mp h r hr) n hn
  simpa using hcodes

theorem exists_mem_of_containsIn {ranges : List (Nat × Nat)} {n : Nat}
    (h : containsIn ranges n = true) : ∃ r ∈ ranges, r.1 ≤ n ∧ n ≤ r.2 := by
  induction ranges with
  | nil => simp [containsIn] at h
  | cons r rest ih =>
    simp only [containsIn] at h
    split at h
    · simp at h
    · rcases Bool.or_eq_true_iff.mp h with hle | hrest
      · exact ⟨r, List.mem_cons_self, by omega, by simpa using hle⟩
      · obtain ⟨r', hr', hbounds⟩ := ih hrest
        exact ⟨r', List.mem_cons_of_mem _ hr', hbounds⟩

theorem has_of_avoids {codes : List Nat} {table : RangeTable} {n : Nat}
    (h : avoids codes table = true) (hn : n ∈ codes) : table.has n = false := by
  by_contra hhas
  obtain ⟨r, hr, hlo, hhi⟩ := exists_mem_of_containsIn (Bool.not_eq_false _ ▸ hhas)
  rcases lt_or_lt_of_avoids h hr hn with hlt | hlt <;> omega

/-- Joining ranges that touch adds no code point, as long as they come in order. -/
theorem exists_mem_of_coalesce {current : Nat × Nat} {ranges : List (Nat × Nat)} {n : Nat}
    (hsorted : ∀ r ∈ ranges, current.1 ≤ r.1) (hpair : ranges.Pairwise fun a b => a.1 ≤ b.1)
    {q : Nat × Nat} (hq : q ∈ coalesce current ranges) (hlo : q.1 ≤ n) (hhi : n ≤ q.2) :
    ∃ r ∈ current :: ranges, r.1 ≤ n ∧ n ≤ r.2 := by
  induction ranges generalizing current with
  | nil =>
    simp only [coalesce, List.mem_singleton] at hq
    exact ⟨current, List.mem_cons_self, by rw [← hq]; exact ⟨hlo, hhi⟩⟩
  | cons r rest ih =>
    obtain ⟨lo, hi⟩ := r
    rw [List.pairwise_cons] at hpair
    simp only [coalesce] at hq
    split at hq
    · rename_i htouch
      have hfirst : current.1 ≤ lo := hsorted _ List.mem_cons_self
      obtain ⟨r', hr', hlo', hhi'⟩ := @ih (current.1, max current.2 hi)
        (fun r hr => hsorted r (List.mem_cons_of_mem _ hr)) hpair.2 hq
      rcases List.mem_cons.mp hr' with rfl | hr'
      · -- The range that grew covers what the two ranges it was made of cover.
        by_cases hold : n ≤ current.2
        · exact ⟨current, List.mem_cons_self, hlo', hold⟩
        · refine ⟨(lo, hi), List.mem_cons_of_mem _ List.mem_cons_self, ?_, ?_⟩
          · dsimp only
            omega
          · dsimp only at hhi' ⊢
            omega
      · exact ⟨r', List.mem_cons_of_mem _ (List.mem_cons_of_mem _ hr'), hlo', hhi'⟩
    · rcases List.mem_cons.mp hq with rfl | hq
      · exact ⟨q, List.mem_cons_self, hlo, hhi⟩
      · obtain ⟨r', hr', hbounds⟩ := ih (fun r hr => hpair.1 r hr) hpair.2 hq
        exact ⟨r', List.mem_cons_of_mem _ hr', hbounds⟩

theorem exists_mem_of_has_ofRanges {ranges : List (Nat × Nat)} {n : Nat}
    (h : (ofRanges ranges).has n = true) : ∃ r ∈ ranges, r.1 ≤ n ∧ n ≤ r.2 := by
  have hsorted : (ranges.mergeSort fun a b => decide (a.1 ≤ b.1)).Pairwise
      fun a b => decide (a.1 ≤ b.1) = true := by
    apply List.pairwise_mergeSort
    · intro a b c hab hbc
      simp only [decide_eq_true_eq] at *
      omega
    · intro a b
      simp only [Bool.or_eq_true, decide_eq_true_eq]
      omega
  unfold ofRanges at h
  split at h
  · simp [has, containsIn] at h
  · rename_i first rest heq
    rw [heq, List.pairwise_cons] at hsorted
    obtain ⟨q, hq, hlo, hhi⟩ := exists_mem_of_containsIn h
    obtain ⟨r, hr, hbounds⟩ := exists_mem_of_coalesce
      (fun r hr => of_decide_eq_true (hsorted.1 r hr))
      (hsorted.2.imp fun hle => of_decide_eq_true hle) hq hlo hhi
    refine ⟨r, ?_, hbounds⟩
    rw [← heq] at hr
    exact (List.mergeSort_perm _ _).mem_iff.mp hr

theorem has_unionAll_of_avoids {codes : List Nat} {tables : List RangeTable} {n : Nat}
    (h : ∀ table ∈ tables, avoids codes table = true) (hn : n ∈ codes) :
    (unionAll tables).has n = false := by
  by_contra hhas
  obtain ⟨r, hr, hlo, hhi⟩ := exists_mem_of_has_ofRanges (Bool.not_eq_false _ ▸ hhas)
  obtain ⟨table, htable, hr⟩ := List.mem_flatMap.mp hr
  rcases lt_or_lt_of_avoids (h table htable) hr hn with hlt | hlt <;> omega

end RangeTable

namespace Character

open RangeTable

/-! ### Blanks -/

/-- The code points of white space. -/
def blankCodes : List Nat :=
  [0x09, 0x0A, 0x0B, 0x0C, 0x0D, 0x20, 0x85, 0xA0, 0x1680, 0x2000, 0x2001, 0x2002, 0x2003, 0x2004,
   0x2005, 0x2006, 0x2007, 0x2008, 0x2009, 0x200A, 0x2028, 0x2029, 0x202F, 0x205F, 0x3000]

theorem isBlank_iff_mem_blankCodes {c : Char} : isBlank c = true ↔ c.toNat ∈ blankCodes := by
  simp only [isBlank, blankCodes, List.mem_cons, List.not_mem_nil, or_false]
  split <;> simp <;> omega

/-- The tables of letters, numbers and characters of words. -/
def wordTables : List RangeTable :=
  [Letter.alphabetic, Letter.numeric, Property.alphabetic.table, Category.nonspacingMarkTable,
   Category.spacingMarkTable, Category.enclosingMarkTable, Category.decimalNumberTable,
   Category.connectorPunctuationTable, Property.joinControl.table]

set_option maxRecDepth 20000 in
theorem avoids_of_mem_wordTables : ∀ table ∈ wordTables, avoids blankCodes table = true := by
  simp only [wordTables, List.forall_mem_cons, List.not_mem_nil, false_imp_iff, implies_true,
    and_true]
  refine ⟨?_, ?_, ?_, ?_, ?_, ?_, ?_, ?_, ?_⟩
  · rw [show Letter.alphabetic = ofPacked (String.ofList _) from rfl, avoids_ofPacked_ofList]
    decide +kernel
  · rw [show Letter.numeric = ofPacked (String.ofList _) from rfl, avoids_ofPacked_ofList]
    decide +kernel
  · rw [show Property.alphabetic.table = ofPacked (String.ofList _) from rfl,
      avoids_ofPacked_ofList]
    decide +kernel
  · rw [show Category.nonspacingMarkTable = ofPacked (String.ofList _) from rfl,
      avoids_ofPacked_ofList]
    decide +kernel
  · rw [show Category.spacingMarkTable = ofPacked (String.ofList _) from rfl,
      avoids_ofPacked_ofList]
    decide +kernel
  · rw [show Category.enclosingMarkTable = ofPacked (String.ofList _) from rfl,
      avoids_ofPacked_ofList]
    decide +kernel
  · rw [show Category.decimalNumberTable = ofPacked (String.ofList _) from rfl,
      avoids_ofPacked_ofList]
    decide +kernel
  · rw [show Category.connectorPunctuationTable = ofPacked (String.ofList _) from rfl,
      avoids_ofPacked_ofList]
    decide +kernel
  · rw [show Property.joinControl.table = ofPacked (String.ofList _) from rfl,
      avoids_ofPacked_ofList]
    decide +kernel

theorem has_of_mem_wordTables {table : RangeTable} {n : Nat} (h : table ∈ wordTables)
    (hn : n ∈ blankCodes) : table.has n = false :=
  has_of_avoids (avoids_of_mem_wordTables table h) hn

theorem has_wordTable_of_mem_blankCodes {n : Nat} (h : n ∈ blankCodes) :
    wordTable.has n = false := by
  refine has_unionAll_of_avoids (fun table htable => avoids_of_mem_wordTables table ?_) h
  exact List.mem_cons_of_mem _ (List.mem_cons_of_mem _ htable)

/-- The ASCII letters by their code points. -/
theorem isAlpha_eq (c : Char) :
    c.isAlpha = (decide (65 ≤ c.toNat ∧ c.toNat ≤ 90) ||
      decide (97 ≤ c.toNat ∧ c.toNat ≤ 122)) := by
  change (decide (c.val ≥ 65 ∧ c.val ≤ 90) || (decide (c.val ≥ 97) && decide (c.val ≤ 122))) = _
  simp only [ge_iff_le, UInt32.le_iff_toNat_le, Bool.decide_and]
  rfl

/-- The ASCII digits by their code points. -/
theorem isDigit_eq (c : Char) : c.isDigit = decide (48 ≤ c.toNat ∧ c.toNat ≤ 57) := by
  change (decide (c.val ≥ 48) && decide (c.val ≤ 57)) = _
  simp only [ge_iff_le, UInt32.le_iff_toNat_le, Bool.decide_and]
  rfl

/-- A blank is neither a letter nor a digit of ASCII. -/
theorem not_ascii_of_mem_blankCodes {n : Nat} (h : n ∈ blankCodes) :
    ¬ (48 ≤ n ∧ n ≤ 57) ∧ ¬ (65 ≤ n ∧ n ≤ 90) ∧ ¬ (97 ≤ n ∧ n ≤ 122) ∧ n ≠ 36 ∧ n ≠ 95 := by
  revert n
  decide

theorem isAlphanumeric_of_isBlank {c : Char} (h : isBlank c = true) :
    isAlphanumeric c = false := by
  have hcode := isBlank_iff_mem_blankCodes.mp h
  obtain ⟨hdigit, hupper, hlower, -, -⟩ := not_ascii_of_mem_blankCodes hcode
  have halpha : Letter.alphabetic.has c.toNat = false :=
    has_of_mem_wordTables List.mem_cons_self hcode
  have hnumeric : Letter.numeric.has c.toNat = false :=
    has_of_mem_wordTables (List.mem_cons_of_mem _ List.mem_cons_self) hcode
  simp only [isAlphanumeric, isAlphabetic, isNumeric, contains]
  split <;> simp [isAlpha_eq, isDigit_eq, hdigit, hupper, hlower, halpha, hnumeric]

theorem ne_of_isBlank {c d : Char} (h : isBlank c = true) (hd : isBlank d = false) : c ≠ d := by
  rintro rfl
  rw [h] at hd
  cases hd

/-- A blank is no part of an identifier. -/
theorem isIdentifierPart_of_isBlank {c : Char} (h : isBlank c = true) :
    isIdentifierPart c = false := by
  simp [isIdentifierPart, isAlphanumeric_of_isBlank h, ne_of_isBlank h (d := '_') (by decide),
    ne_of_isBlank h (d := '$') (by decide)]

/-- A blank is no character of words. -/
theorem isWord_of_isBlank {c : Char} (h : isBlank c = true) : isWord c = false := by
  have hcode := isBlank_iff_mem_blankCodes.mp h
  obtain ⟨hdigit, hupper, hlower, -, -⟩ := not_ascii_of_mem_blankCodes hcode
  simp only [isWord, contains]
  split
  · simp [Char.isAlphanum, isAlpha_eq, isDigit_eq, hdigit, hupper, hlower,
      ne_of_isBlank h (d := '_') (by decide)]
  · exact has_wordTable_of_mem_blankCodes hcode

theorem isIdentifierPart_of_isIdentifierStart {c : Char} (h : isIdentifierStart c = true) :
    isIdentifierPart c = true := by
  simp only [isIdentifierStart, isIdentifierPart, isAlphanumeric, Bool.or_eq_true] at h ⊢
  tauto

end Character

end DesignTokens
