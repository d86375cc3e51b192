import DesignTokens.Proofs.Declaration.Grammar
import Mathlib.Algebra.Ring.Nat

/-! # Parts outside brackets

A text is cut at the separators outside all brackets. The depth of brackets is counted through the
whole text, and a closing bracket too many does not take it below zero. Where the text is cut the
depth is zero, so a part can be gone through on its own: the depth at a place of it is the depth at
that place of the text.

## Main definitions

* `Declaration.KeptAt`, `Declaration.CutAt` - a separator stands within a part, or between two
* `Declaration.TopLevelParts` - the parts of a text between the separators outside all brackets

## Main results

* `Declaration.joinWith_splitTopLevelFrom` - the parts with separators between them are the text
* `Declaration.quiet_splitTopLevelFrom` - a part has no separator outside all brackets
* `Declaration.topLevelParts_splitTopLevel` - a text is cut into these parts
-/

namespace DesignTokens.Declaration

open Character Text

section

variable {separator c : Char} {depth : Nat} {t u v before after first : Text}
  {parts front back : List Text}

/-! ### Joining parts -/

theorem joinWith_cons (h : parts ≠ []) :
    joinWith [separator] (first :: parts) = first ++ separator :: joinWith [separator] parts := by
  obtain ⟨part, more, rfl⟩ := List.exists_cons_of_ne_nil h
  rw [joinWith]
  · exact List.append_assoc _ _ _
  · exact List.cons_ne_nil part more

theorem joinWith_consFirst (h : parts ≠ []) :
    joinWith [separator] (consFirst c parts) = c :: joinWith [separator] parts := by
  obtain ⟨part, more, rfl⟩ := List.exists_cons_of_ne_nil h
  rw [consFirst]
  cases more with
  | nil => rfl
  | cons next more =>
    rw [joinWith_cons (List.cons_ne_nil next more), joinWith_cons (List.cons_ne_nil next more)]
    rfl

/-- The parts with separators between them are the text. -/
theorem joinWith_splitTopLevelFrom (separator : Char) (depth : Nat) (t : Text) :
    joinWith [separator] (splitTopLevelFrom separator depth t) = t := by
  induction t generalizing depth with
  | nil => rfl
  | cons c t ih =>
    have hne : ∀ d, splitTopLevelFrom separator d t ≠ [] := by
      intro d
      obtain ⟨part, parts, heq⟩ := splitTopLevelFrom_ne_nil separator d t
      rw [heq]
      exact List.cons_ne_nil part parts
    rw [splitTopLevelFrom]
    split
    · rename_i hcut
      simp only [Bool.and_eq_true, decide_eq_true_eq] at hcut
      rw [joinWith_cons (hne depth), ih, List.nil_append, hcut.1.2]
    · rw [joinWith_consFirst (hne _), ih]

/-- The length of joined parts, each counted with the separator behind it. -/
theorem sum_length_eq (separator : Char) (h : parts ≠ []) :
    (parts.map (·.length + 1)).sum = (joinWith [separator] parts).length + 1 := by
  induction parts with
  | nil => exact absurd rfl h
  | cons part parts ih =>
    by_cases hnil : parts = []
    · subst hnil
      rw [List.map_singleton, List.sum_singleton, joinWith]
    · rw [joinWith_cons hnil, List.map_cons, List.sum_cons, ih hnil, List.length_append,
        List.length_cons]
      omega

/-! ### Separators in a text -/

/-- The separator between `before` and `after` stands within a part: in front of it come whole
parts and the beginning of this one, and behind it the end of this one and whole parts. -/
def KeptAt (separator : Char) (parts : List Text) (before after : Text) : Prop :=
  ∃ front a b back, parts = front ++ (a ++ separator :: b) :: back ∧
    before = joinWith [separator] (front ++ [a]) ∧ after = joinWith [separator] (b :: back)

/-- The separator between `before` and `after` stands between two parts. -/
def CutAt (separator : Char) (parts : List Text) (before after : Text) : Prop :=
  ∃ front back, front ≠ [] ∧ back ≠ [] ∧ parts = front ++ back ∧
    before = joinWith [separator] front ∧ after = joinWith [separator] back

/-- A separator stands within a part or between two, but not both. -/
theorem CutAt.not_keptAt (h : CutAt separator parts before after) :
    ¬ KeptAt separator parts before after := by
  obtain ⟨front, back, hfront, -, rfl, hbefore, -⟩ := h
  rintro ⟨front', a, b, back', hparts, hbefore', -⟩
  -- The text in front has one length only, whichever parts it is made of.
  have hlength :
      (front.map (·.length + 1)).sum = (front'.map (·.length + 1)).sum + (a.length + 1) := by
    rw [sum_length_eq separator hfront, ← hbefore, hbefore', ← sum_length_eq separator (by simp),
      List.map_append, List.sum_append]
    simp
  rcases append_eq_append_cons hparts with ⟨w, rfl, -⟩ | ⟨w, rfl, -⟩
  · rw [List.map_append, List.sum_append, List.map_cons, List.sum_cons, List.length_append,
      List.length_cons] at hlength
    omega
  · rw [List.map_append, List.sum_append] at hlength
    omega

/-! ### Cutting -/

/-- A part has no separator outside all brackets, if the first part is counted from the depth that
the text starts at. -/
theorem quiet_splitTopLevelFrom (hopen : isOpening separator = false)
    (hclose : isClosing separator = false) (depth : Nat) (t : Text) :
    ∃ first parts, splitTopLevelFrom separator depth t = first :: parts ∧
      Quiet separator depth first ∧ ∀ part ∈ parts, Quiet separator 0 part := by
  induction t generalizing depth with
  | nil => exact ⟨[], [], rfl, trivial, by simp⟩
  | cons c t ih =>
    rw [splitTopLevelFrom]
    split
    · -- Behind a separator that is cut out the count starts at zero, where it was.
      rename_i hcut
      simp only [Bool.and_eq_true, decide_eq_true_eq] at hcut
      obtain ⟨first, parts, hsplit, hfirst, hparts⟩ := ih depth
      refine ⟨[], first :: parts, by rw [hsplit], trivial, ?_⟩
      rw [hcut.2] at hfirst
      intro part hpart
      rcases List.mem_cons.mp hpart with rfl | hpart
      · exact hfirst
      · exact hparts part hpart
    · rename_i hkept
      obtain ⟨first, parts, hsplit, hfirst, hparts⟩ := ih (depthAfter depth c)
      refine ⟨c :: first, parts, by rw [hsplit, consFirst], ⟨?_, hfirst⟩, hparts⟩
      rintro ⟨rfl, hdepth⟩
      exact hkept (by simp [hopen, hclose, hdepth])

theorem quiet_of_mem_splitTopLevel (hopen : isOpening separator = false)
    (hclose : isClosing separator = false) {part : Text}
    (h : part ∈ splitTopLevel separator t) : Quiet separator 0 part := by
  obtain ⟨first, parts, hsplit, hfirst, hparts⟩ := quiet_splitTopLevelFrom hopen hclose 0 t
  rw [splitTopLevel, hsplit] at h
  rcases List.mem_cons.mp h with rfl | h
  · exact hfirst
  · exact hparts part h

/-- In front of a place a text is cut into whole parts and the beginning of another. -/
theorem exists_parts_append (separator : Char) (u : Text) : ∃ front part,
    u = joinWith [separator] (front ++ [part]) ∧ ∀ t first parts,
      splitTopLevelFrom separator (depthThrough 0 u) t = first :: parts →
        splitTopLevel separator (u ++ t) = front ++ (part ++ first) :: parts := by
  obtain ⟨front, part, hsplit, -⟩ := exists_splitTopLevelFrom_append separator 0 u
  refine ⟨front, part, ?_, ?_⟩
  · -- With no text behind the place these are the parts of `u`.
    have hnone := hsplit []
    rw [List.append_nil, foldr_consFirst_splitTopLevelFrom_nil] at hnone
    rw [← hnone, joinWith_splitTopLevelFrom]
  · intro t first parts ht
    rw [splitTopLevel, hsplit, ht, foldr_consFirst_cons]

/-- Where no bracket is open a text is cut. -/
theorem cutAt_of_depth_eq_zero (hopen : isOpening separator = false)
    (hclose : isClosing separator = false) (h : depthThrough 0 u = 0) (v : Text) :
    CutAt separator (splitTopLevel separator (u ++ separator :: v)) u v := by
  obtain ⟨front, part, hu, hsplit⟩ := exists_parts_append separator u
  have hcut : splitTopLevelFrom separator (depthThrough 0 u) (separator :: v) =
      [] :: splitTopLevel separator v := by
    rw [h, splitTopLevelFrom, if_pos (by simp [hopen, hclose])]
    rfl
  obtain ⟨first, parts, hv⟩ := splitTopLevelFrom_ne_nil separator 0 v
  refine ⟨front ++ [part], splitTopLevel separator v, by simp, ?_, ?_, hu, ?_⟩
  · rw [splitTopLevel, hv]
    exact List.cons_ne_nil first parts
  · rw [hsplit _ _ _ hcut, List.append_nil, List.append_assoc, List.singleton_append]
  · exact (joinWith_splitTopLevelFrom separator 0 v).symm

/-- Where a bracket is open a separator is kept. -/
theorem keptAt_of_depth_pos (hopen : isOpening separator = false)
    (hclose : isClosing separator = false) (h : 0 < depthThrough 0 u) (v : Text) :
    KeptAt separator (splitTopLevel separator (u ++ separator :: v)) u v := by
  obtain ⟨front, part, hu, hsplit⟩ := exists_parts_append separator u
  obtain ⟨first, parts, hv⟩ := splitTopLevelFrom_ne_nil separator (depthThrough 0 u) v
  have hkept : splitTopLevelFrom separator (depthThrough 0 u) (separator :: v) =
      (separator :: first) :: parts := by
    have hnot : ¬ depthThrough 0 u = 0 := by omega
    rw [splitTopLevelFrom, if_neg (by simp [hnot]), depthAfter_of_plain hopen hclose, hv, consFirst]
  refine ⟨front, part, first, parts, hsplit _ _ _ hkept, hu, ?_⟩
  rw [← hv, joinWith_splitTopLevelFrom]

/-! ### Exactness -/

/-- The parts of a text between the separators outside all brackets. -/
structure TopLevelParts (separator : Char) (t : Text) (parts : List Text) : Prop where
  /-- The parts with separators between them are the text. -/
  joined : joinWith [separator] parts = t
  /-- A part is not cut again. -/
  whole : ∀ part ∈ parts, splitTopLevel separator part = [part]
  /-- A separator stays in a part where a bracket is open. -/
  kept : ∀ before after, t = before ++ separator :: after →
    (KeptAt separator parts before after ↔ 0 < depthThrough 0 before)
  /-- A separator stands between two parts where none is. -/
  cut : ∀ before after, t = before ++ separator :: after →
    (CutAt separator parts before after ↔ depthThrough 0 before = 0)

/-- A text, with balanced brackets or not, is cut into its parts. -/
theorem topLevelParts_splitTopLevel (hopen : isOpening separator = false)
    (hclose : isClosing separator = false) (t : Text) :
    TopLevelParts separator t (splitTopLevel separator t) where
  joined := joinWith_splitTopLevelFrom separator 0 t
  whole := by
    intro part hpart
    exact splitTopLevel_of_quiet (quiet_of_mem_splitTopLevel hopen hclose hpart)
  kept := by
    rintro before after rfl
    constructor
    · intro hkept
      by_contra hdepth
      have hzero : depthThrough 0 before = 0 := by omega
      exact (cutAt_of_depth_eq_zero hopen hclose hzero after).not_keptAt hkept
    · intro hdepth
      exact keptAt_of_depth_pos hopen hclose hdepth after
  cut := by
    rintro before after rfl
    constructor
    · intro hcut
      by_contra hdepth
      have hpos : 0 < depthThrough 0 before := by omega
      exact hcut.not_keptAt (keptAt_of_depth_pos hopen hclose hpos after)
    · intro hdepth
      exact cutAt_of_depth_eq_zero hopen hclose hdepth after

end

/-- Brackets closed that were not open, brackets left open, and a character of two bytes. -/
theorem topLevelParts_unbalanced :
    isOpening ',' = false ∧ isClosing ',' = false ∧
      TopLevelParts ',' "é]),(a,b], c[,".toList ["é])".toList, "(a,b]".toList, " c[,".toList] := by
  have hsplit : splitTopLevel ',' "é]),(a,b], c[,".toList =
      ["é])".toList, "(a,b]".toList, " c[,".toList] := by
    decide
  refine ⟨by decide, by decide, ?_⟩
  rw [← hsplit]
  exact topLevelParts_splitTopLevel (by decide) (by decide) _

end DesignTokens.Declaration
