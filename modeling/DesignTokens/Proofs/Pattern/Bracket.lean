import DesignTokens.Pattern.Reader
import Mathlib.Data.List.Nodup

/-! # Reading bracketed classes

A bracketed class of characters and ranges is read from one member to the next, and stands for all
of them together, in whatever order they are written.

## Main definitions

* `Pattern.writtenRange` - a range as it is written in a class

## Main results

* `RangeTable.ofRanges_eq_of_perm` - the table of ranges whose order is known
* `Pattern.readClass_writtenRanges` - a class of ranges is read as their union
-/

namespace DesignTokens

/-- The table of ranges whose order is known. -/
theorem RangeTable.ofRanges_eq_of_perm {ranges : List (Nat × Nat)} (first : Nat × Nat)
    (rest : List (Nat × Nat)) (hperm : ranges.Perm (first :: rest))
    (hsorted : (first :: rest).Pairwise fun a b => a.1 < b.1) :
    ofRanges ranges = ⟨coalesce first rest⟩ := by
  have hmerged : (ranges.mergeSort fun a b => decide (a.1 ≤ b.1)).Pairwise
      fun a b => decide (a.1 ≤ b.1) = true := by
    refine List.pairwise_mergeSort (fun a b c hab hbc => ?_) (fun a b => ?_) ranges
    · exact decide_eq_true (Nat.le_trans (of_decide_eq_true hab) (of_decide_eq_true hbc))
    · rw [Bool.or_eq_true, decide_eq_true_eq, decide_eq_true_eq]
      exact Nat.le_total a.1 b.1
  have hranges := (List.mergeSort_perm ranges fun a b => decide (a.1 ≤ b.1)).trans hperm
  -- Ranges that start in one place are the same, as the starts rise.
  have hstarts : ((first :: rest).map Prod.fst).Nodup :=
    List.pairwise_map.mpr (hsorted.imp Nat.ne_of_lt)
  have hsort : (ranges.mergeSort fun a b => decide (a.1 ≤ b.1)) = first :: rest := by
    refine hranges.eq_of_pairwise (fun a b ha hb hab hba => ?_) hmerged
      (hsorted.imp fun hlt => decide_eq_true (Nat.le_of_lt hlt))
    exact List.inj_on_of_nodup_map hstarts (hranges.mem_iff.mp ha) hb
      (Nat.le_antisymm (of_decide_eq_true hab) (of_decide_eq_true hba))
  rw [ofRanges, hsort]

namespace Pattern

/-- The characters that stand for themselves in a bracketed class. -/
def isMember (c : Char) : Bool :=
  !"[]^-&~\\".toList.contains c

/-- A range as it is written in a class. -/
def writtenRange (range : Char × Char) : Text :=
  if range.1 = range.2 then [range.1] else [range.1, '-', range.2]

/-- A range as a class. -/
def rangeClass (range : Char × Char) : CharClass :=
  .single range.1.toNat range.2.toNat

variable {range : Char × Char} {ranges : List (Char × Char)} {parts : List ClassPart}
  {stack : List ClassFrame} {c d : Char} {t : Text}

theorem readMember_of_isMember (hc : isMember c = true) (t : Text) :
    readMember {} (c :: t) = .ok (.literal c, t) := by
  rw [readMember.eq_def]
  split
  · rename_i heq
    cases heq
  · rename_i heq
    cases heq
    cases hc
  · rename_i heq
    cases heq
    rfl

theorem readRange_writtenRange (hlo : isMember range.1 = true) (hhi : isMember range.2 = true)
    (hle : range.1.toNat ≤ range.2.toNat) (hd : d ≠ '-') :
    readRange {} (writtenRange range ++ d :: t) = .ok (rangeClass range, d :: t) := by
  obtain ⟨lo, hi⟩ := range
  simp only [writtenRange, rangeClass] at *
  by_cases hsame : lo = hi
  · subst hsame
    rw [if_pos rfl, List.singleton_append, readRange, readMember_of_isMember hlo]
    simp only [bind, Except.bind, skip, Bool.false_eq_true, if_false, literalCode, Bool.not_true,
      Bool.false_and, pure, Except.pure]
    -- What follows is no hyphen, so that the character stands alone.
    split
    · rename_i heq
      cases heq
    · rename_i heq
      exact absurd (List.cons.inj heq).1 hd
    · rfl
  · have hpeek : ¬ (peek false (hi :: d :: t) = some ']' || peek false (hi :: d :: t) = some '-')
        = true := by
      rw [Bool.or_eq_true, decide_eq_true_eq, decide_eq_true_eq]
      rintro (hmark | hmark)
      · cases hmark
        cases hhi
      · cases hmark
        cases hhi
    rw [if_neg hsame, List.cons_append, readRange, readMember_of_isMember hlo]
    simp only [bind, Except.bind, skip, Bool.false_eq_true, if_false, List.cons_append,
      List.nil_append, if_neg hpeek, readMember_of_isMember hhi, literalCode, Bool.not_true,
      Bool.false_and, pure, Except.pure, if_pos hle]

theorem exists_writtenRange_append (range : Char × Char) (t : Text) :
    ∃ more, writtenRange range ++ t = range.1 :: more := by
  rw [writtenRange]
  split <;> exact ⟨_, rfl⟩

theorem readClassFrom_writtenRange (hlo : isMember range.1 = true) (hhi : isMember range.2 = true)
    (hle : range.1.toNat ≤ range.2.toNat) (hd : d ≠ '-') (n : Nat) :
    readClassFrom {} (n + 1) parts stack (writtenRange range ++ d :: t) =
      readClassFrom {} n (.flat (rangeClass range) :: parts) stack (d :: t) := by
  have hread := readRange_writtenRange (t := t) hlo hhi hle hd
  obtain ⟨more, htext⟩ := exists_writtenRange_append range (d :: t)
  rw [htext] at hread ⊢
  rw [readClassFrom]
  simp only [skip, Bool.false_eq_true, if_false]
  -- The first character is no mark, which leaves the last of the cases.
  split
  case h_7 => rw [hread]; rfl
  case h_1 heq => cases heq
  all_goals
    rename_i heq
    rw [(List.cons.inj heq).1] at hlo
    cases hlo

/-- Ranges go on with a member, or the bracket behind them comes next. -/
theorem exists_writtenRanges_append (h : ∀ range ∈ ranges, isMember range.1 = true) (t : Text) :
    ∃ d more, ranges.flatMap writtenRange ++ ']' :: t = d :: more ∧
      (isMember d = true ∨ ranges = [] ∧ d = ']') := by
  cases ranges with
  | nil => exact ⟨']', t, rfl, .inr ⟨rfl, rfl⟩⟩
  | cons range ranges =>
    obtain ⟨more, htext⟩ := exists_writtenRange_append range
      (ranges.flatMap writtenRange ++ ']' :: t)
    exact ⟨range.1, more, by rw [List.flatMap_cons, List.append_assoc, htext],
      .inl (h range List.mem_cons_self)⟩

/-- Members are read one after the other, up to the bracket behind them. -/
theorem readClassFrom_writtenRanges (n : Nat) (h : ∀ range ∈ ranges, isMember range.1 = true ∧
      isMember range.2 = true ∧ range.1.toNat ≤ range.2.toNat) :
    readClassFrom {} (n + ranges.length) parts stack (ranges.flatMap writtenRange ++ ']' :: t) =
      readClassFrom {} n ((ranges.map fun range => .flat (rangeClass range)).reverse ++ parts) stack
        (']' :: t) := by
  induction ranges generalizing parts with
  | nil => rfl
  | cons range ranges ih =>
    obtain ⟨⟨hlo, hhi, hle⟩, hranges⟩ := List.forall_mem_cons.mp h
    obtain ⟨d, more, htext, hd⟩ := exists_writtenRanges_append (fun r hr => (hranges r hr).1) t
    have hhyphen : d ≠ '-' := by
      rintro rfl
      rcases hd with hd | ⟨-, hd⟩ <;> cases hd
    rw [List.flatMap_cons, List.append_assoc, htext, List.length_cons, ← Nat.add_assoc,
      readClassFrom_writtenRange hlo hhi hle hhyphen, ← htext, ih hranges, List.map_cons,
      List.reverse_cons, List.append_assoc, List.singleton_append]

theorem readClassFrom_opening (hc : isMember c = true) (n : Nat) (t : Text) :
    readClassFrom {} (n + 1) [] [] ('[' :: c :: t) =
      readClassFrom {} n [] [.bracket [] false] (c :: t) := by
  have hcaret : c ≠ '^' := by rintro rfl; cases hc
  have hhyphen : c ≠ '-' := by rintro rfl; cases hc
  have hbracket : c ≠ ']' := by rintro rfl; cases hc
  have hopen : openClass false (c :: t) = .ok (false, [], c :: t) := by
    simp [openClass, skip, leadingHyphens, takeSpaced, hcaret, hhyphen, hbracket]
  rw [readClassFrom]
  simp [skip, hopen, bind, Except.bind]

/-- Ranges together are one level up. -/
theorem ofParts_flat (hmany : 2 ≤ ranges.length) :
    ClassPart.ofParts (ranges.map fun range => .flat (rangeClass range)) =
      ⟨.unionAll (ranges.map rangeClass), 1⟩ := by
  have hdepth : ∀ more : List (Char × Char), (more.map fun range =>
      ClassPart.flat (rangeClass range)).foldl (fun d part => max d (part.depth + 1)) 1 = 1 := by
    intro more
    induction more with
    | nil => rfl
    | cons range more ih => exact ih
  match ranges, hmany with
  | first :: second :: more, _ =>
    simp only [List.map_cons, ClassPart.ofParts, List.map_map, List.foldl_cons]
    exact congrArg₂ _ rfl (hdepth more)

theorem readClassFrom_closing {members : CharClass} {depth : Nat}
    (h : ClassPart.ofParts parts.reverse = ⟨members, depth⟩) (n : Nat) :
    readClassFrom {} (n + 1) parts [.bracket [] false] (']' :: t) =
      .ok (⟨members, depth + 1⟩, t) := by
  rw [readClassFrom]
  simp [skip, applyPending, h, finishClass, bind, Except.bind, pure, Except.pure]

/-- Every range takes a character at least, so that there are rounds for all of them. -/
theorem length_le_length_flatMap_writtenRange (ranges : List (Char × Char)) :
    ranges.length ≤ (ranges.flatMap writtenRange).length := by
  induction ranges with
  | nil => exact Nat.le_refl 0
  | cons range ranges ih =>
    have hpos : 0 < (writtenRange range).length := by
      rw [writtenRange]
      split <;> exact Nat.succ_pos _
    rw [List.length_cons, List.flatMap_cons, List.length_append]
    omega

/-- A class of ranges is read as their union. -/
theorem readClass_writtenRanges (ranges : List (Char × Char)) (hmany : 2 ≤ ranges.length)
    (h : ∀ range ∈ ranges, isMember range.1 = true ∧ isMember range.2 = true ∧
      range.1.toNat ≤ range.2.toNat) (t : Text) :
    readClass {} ('[' :: (ranges.flatMap writtenRange ++ ']' :: t)) =
      .ok (⟨.unionAll (ranges.map rangeClass), 2⟩, t) := by
  have hlength := length_le_length_flatMap_writtenRange ranges
  obtain ⟨n, hn⟩ : ∃ n, ('[' :: (ranges.flatMap writtenRange ++ ']' :: t)).length + 1 =
      n + 1 + ranges.length + 1 := by
    refine ⟨(ranges.flatMap writtenRange).length - ranges.length + t.length + 1, ?_⟩
    simp only [List.length_cons, List.length_append]
    omega
  obtain ⟨c, more, htext, hc⟩ := exists_writtenRanges_append (fun r hr => (h r hr).1) t
  have hmember : isMember c = true := by
    rcases hc with hc | ⟨rfl, -⟩
    · exact hc
    · cases hmany
  rw [readClass, hn, htext, readClassFrom_opening hmember, ← htext, readClassFrom_writtenRanges _ h,
    readClassFrom_closing]
  rw [List.append_nil, List.reverse_reverse, ofParts_flat hmany]

end Pattern

end DesignTokens
